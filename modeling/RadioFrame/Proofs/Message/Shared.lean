import RadioFrame.Proofs.Frame.Body

/-!
The kinds that Enhanced ShockBurst and Logitech Unifying share.

Ten kinds of the one domain are kinds of the other too (`SharedKind`), at tags of their own
(`SharedKind.kind`). Their fields are described once, so that a body says the same in either domain:
what is read from it, and what is wrong with it, is found by the shape before the domain is given
(`Message.decode_eq_readBody`), and the bytes of the fields do not tell the domain
(`Message.encode_ofBody`). But the domain is part of the type, and who expects a type of the one
domain is told of any frame of the other that it is something else (`Envelope.unpackAs_of_ne`).
-/

namespace RadioFrame

/-- The two domains that share kinds. -/
inductive Family where
  | shockBurst
  | unifying
  deriving DecidableEq

/-- The domain of each. -/
def Family.domain : Family → Domain
  | shockBurst => .esb
  | unifying => .unifying

/-- The kinds that they share. -/
inductive SharedKind where
  | setNodeAddress
  | sniffMode
  | jamMode
  | sendPdu
  | sendRawPdu
  | start
  | stop
  | rawPduReceived
  | pduReceived
  | jammed
  deriving DecidableEq

namespace SharedKind

/-- Every shared kind, in the order of the tags. -/
def all : List SharedKind :=
  [setNodeAddress, sniffMode, jamMode, sendPdu, sendRawPdu, start, stop, rawPduReceived,
    pduReceived, jammed]

lemma mem_all (s : SharedKind) : s ∈ all := by cases s <;> decide

/-- The fields of a shared kind. -/
def shape : SharedKind → Shape
  | setNodeAddress => ShockBurst.setNodeAddress
  | sniffMode => ShockBurst.sniffMode
  | jamMode => ShockBurst.jamMode
  | sendPdu => ShockBurst.sendPdu
  | sendRawPdu => ShockBurst.sendRawPdu
  | start => ShockBurst.start
  | stop => ShockBurst.stop
  | rawPduReceived => ShockBurst.rawPduReceived
  | pduReceived => ShockBurst.pduReceived
  | jammed => .jammed

/-- The tag of a shared kind in the message of either domain. -/
def tag : Family → SharedKind → Nat
  | _, setNodeAddress => 1
  | _, sniffMode => 2
  | _, jamMode => 3
  | _, sendPdu => 4
  | _, sendRawPdu => 5
  | .shockBurst, start => 8
  | .unifying, start => 9
  | .shockBurst, stop => 9
  | .unifying, stop => 10
  | .shockBurst, rawPduReceived => 10
  | .unifying, rawPduReceived => 12
  | .shockBurst, pduReceived => 11
  | .unifying, pduReceived => 13
  | .shockBurst, jammed => 12
  | .unifying, jammed => 14

/-- A shared kind as a kind of either domain. -/
def kind (f : Family) (s : SharedKind) : Kind f.domain :=
  ⟨s.tag f - 1, by cases f <;> cases s <;> decide⟩

/-- A shared kind as a type of messages of either domain. -/
def type (f : Family) (s : SharedKind) : MessageType := ⟨f.domain, s.kind f⟩

/-- In either domain the fields are those of the shared kind. -/
lemma shape_type (f : Family) (s : SharedKind) : (s.type f).shape = s.shape := by
  cases f <;> cases s <;> rfl

/-- The message of either domain that has given fields. -/
def message (f : Family) (s : SharedKind) (b : Body s.shape) : Message := .ofBody (s.shape_type f) b

/-- Kinds of the two domains have the same name just when they are the same shared kind. -/
lemma name_eq_iff (k : Kind Family.shockBurst.domain) (k' : Kind Family.unifying.domain) :
    k.name = k'.name ↔ ∃ s : SharedKind, s.kind .shockBurst = k ∧ s.kind .unifying = k' := by
  have hall : ∀ (k : Kind Family.shockBurst.domain) (k' : Kind Family.unifying.domain),
      k.name = k'.name ↔ ∃ s ∈ all, s.kind .shockBurst = k ∧ s.kind .unifying = k' := by
    decide
  rw [hall]
  exact ⟨fun ⟨s, _, hs⟩ => ⟨s, hs⟩, fun ⟨s, hs⟩ => ⟨s, s.mem_all, hs⟩⟩

end SharedKind

/-- The shared kinds are those with the same name in both domains. A body of a shared kind comes to
fields, or to a malformed encoding or a violation, whichever domain the frame around it is of, and
whether the type is expected or not. The same fields have the same body in both domains. And a frame
of one domain is refused by whoever expects any kind of the other, and both types are told. -/
theorem SharedKind.alike :
    (∀ (k : Kind Family.shockBurst.domain) (k' : Kind Family.unifying.domain),
      k.name = k'.name ↔ ∃ s : SharedKind, s.kind .shockBurst = k ∧ s.kind .unifying = k') ∧
    (∀ (s : SharedKind) (body : Bytes), ∃ outcome : Except MessageError (Body s.shape),
      (∀ e, outcome = .error e →
        (∃ fault, e = .decode (.wire fault)) ∨ ∃ v, e = .parse (.violation v)) ∧
      ∀ (f : Family) (frame : Bytes), (s.type f).Wraps body frame →
        Message.decode frame = outcome.map (s.message f) ∧
          (Message.decodeAs (s.type f) frame).map (Message.mk (s.type f)) =
            outcome.map (s.message f)) ∧
    (∀ (s : SharedKind) (b : Body s.shape), ∃ body : Bytes,
      ∀ f : Family, (s.message f b).encode = (s.type f).around body) ∧
    ∀ (f g : Family), f ≠ g → ∀ (bytes : Bytes) (e : Envelope) (t u : MessageType),
      Envelope.decode bytes = .ok e → e.messageType = .ok t → t.domain = f.domain →
        u.domain = g.domain →
          Message.decodeAs u bytes = .error (.parse (.kindMismatch u (some t))) := by
  refine ⟨name_eq_iff, fun s body => ?_, fun s b => ?_, ?_⟩
  · refine ⟨s.shape.readBody body, fun e => s.shape.readBody_error, fun f frame hframe => ?_⟩
    have hdecode := Message.decode_eq_readBody (s.shape_type f) hframe
    exact ⟨hdecode, (Message.map_decodeAs hframe).trans hdecode⟩
  · exact ⟨s.shape.write b.toRaw, fun f => Message.encode_ofBody (s.shape_type f) b⟩
  · intro f g hne bytes e t u he ht hf hg
    have hother : t ≠ u := by
      rintro rfl
      rw [hf] at hg
      revert hne hg
      cases f <;> cases g <;> decide
    rw [Message.decodeAs, he, mapError_ok, ok_bind, Envelope.unpackAs_of_ne ht hother,
      mapError_error]

/-- The command that sets a node address of five bytes. -/
def SharedKind.fiveBytes : Body setNodeAddress.shape :=
  ⟨((⟨[1, 2, 3, 4, 5], by decide⟩ : Payload 5), ()), rfl⟩

/-- A node address of six bytes is one too long, and reported alike in both domains; one of five
bytes is written alike. The tag that stops Enhanced ShockBurst starts Logitech Unifying, but a
receiver of the one is not given the other. -/
theorem SharedKind.alike_longAddress :
    (∀ f : Family, Message.decode ((type f .setNodeAddress).around [0x0a, 6, 1, 2, 3, 4, 5, 6]) =
        .error (.parse (.violation ⟨"address", .overflow ⟨6, 5⟩⟩))) ∧
      (∃ body : Bytes, ∀ f : Family,
        (message f .setNodeAddress fiveBytes).encode = (type f .setNodeAddress).around body) ∧
      tag .shockBurst stop = tag .unifying start ∧
      Message.decodeAs (type .unifying start) ((type .shockBurst stop).around []) =
        .error (.parse (.kindMismatch (type .unifying start) (some (type .shockBurst stop)))) := by
  refine ⟨fun f => ?_, alike.2.2.1 .setNodeAddress fiveBytes, rfl, ?_⟩
  · obtain ⟨outcome, _, hread⟩ := alike.2.1 .setNodeAddress [0x0a, 6, 1, 2, 3, 4, 5, 6]
    have hframe : ∀ f : Family, Message.decode
        ((type f .setNodeAddress).around [0x0a, 6, 1, 2, 3, 4, 5, 6]) =
          outcome.map (message f .setNodeAddress) := fun f =>
      (hread f _ ((type f .setNodeAddress).wraps_around (by cases f <;> decide))).1
    have hesb : Message.decode
        ((type .shockBurst .setNodeAddress).around [0x0a, 6, 1, 2, 3, 4, 5, 6]) =
          .error (.parse (.violation ⟨"address", .overflow ⟨6, 5⟩⟩)) := by decide
    -- the outcome is known from the one domain, and so it is for the other
    rw [hframe] at hesb
    rw [hframe]
    cases outcome with
    | error e =>
        cases hesb
        rfl
    | ok b => cases hesb
  · exact alike.2.2.2 .shockBurst .unifying (by decide) _
      ⟨Branch.wrap (d := .esb) ⟨stop.kind .shockBurst, ()⟩⟩ _ _ (by decide) rfl rfl rfl

end RadioFrame
