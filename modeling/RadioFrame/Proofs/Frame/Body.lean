import RadioFrame.Proofs.Frame.Interleaving
import RadioFrame.Proofs.Message.Typed

/-!
What a frame around a body comes to, faults included.

A frame that holds one body and nothing else has two lengths that reach to its end. So the records
of the body are read to the end of all bytes (`Wire.mergeAll`), and a fault in them is told from the
body outwards (`Wire.mergeAll_oneOf`): the domain and the kind only say which shape the body is read
by, and give their names to the fault. In this library these names are the same for all domains and
kinds, so `Message.decode_eq_readBody` tells the outcome by the shape of the type and the bytes of
the body alone.
-/

namespace RadioFrame

open Wire (IsKey IsNumber IsSteady FieldReaders Fault)

/-! ### Messages whose bytes reach to the end -/

namespace Wire

variable {σ : Type}

/-- Reads all records of a byte string into a value, within a budget of nesting. -/
def mergeAll (name : String) (fields : FieldReaders σ) (budget : Nat) (s : σ) (bytes : Bytes) :
    Except Fault σ := do
  let (s, _) ← readUntil 0 (mergeRecord name fields budget) bytes.length s bytes
  .ok s

/-- A message inside a message, the length of which reaches to the end, is read to the end. -/
lemma mergeDelimited_whole {fields : FieldReaders σ} (hfields : IsSteady fields) {w content : Bytes}
    (hw : IsNumber w content.length) (name : String) (budget : Nat) (s : σ) :
    mergeDelimited name fields .lengthDelimited (budget + 1) s (w ++ content) =
      (mergeAll name fields budget s content).map fun t => (t, []) := by
  have hfits : ¬content.length < content.length := Nat.lt_irrefl _
  rw [mergeDelimited, expect, if_pos rfl, ok_bind]
  rw [readDelimited, hw.read, ok_bind]
  dsimp only
  rw [if_neg hfits, Nat.sub_self, mergeAll]
  cases hloop : readUntil 0 (mergeRecord name fields budget) content.length s content with
  | error e => rfl
  | ok p =>
      obtain ⟨t, rest⟩ := p
      have hend := length_le_of_readUntil (hfields.mergeRecord name budget) (Nat.le_refl _) hloop
      obtain rfl : rest = [] := List.length_eq_zero_iff.mp (Nat.le_zero.mp hend)
      rfl

/-- A message that is one of several exclusive fields, and all there is, comes to what its own
records come to. A fault in them is told as one inside the group. -/
lemma mergeAll_oneOf {ι : Type} [DecidableEq ι] {V : ι → Type} {name label : String}
    {ofTag? : Nat → Option ι} {blank : ∀ i, V i} (inside : ι → String)
    (inner : ∀ i, FieldReaders (V i)) (hinner : ∀ i, IsSteady (inner i)) {budget tag : Nat} {i : ι}
    (hi : ofTag? tag = some i) {k w content : Bytes} (hk : IsKey k ⟨tag, .lengthDelimited⟩)
    (hw : IsNumber w content.length) :
    mergeAll name (oneOfReader label ofTag? blank fun i => mergeDelimited (inside i) (inner i))
        (budget + 1) none (k ++ (w ++ content)) =
      ((mergeAll (inside i) (inner i) budget (blank i) content).mapError (.within name label)).map
        fun v => some ⟨i, v⟩ := by
  have hpos := hk.length_pos
  obtain ⟨fuel, hfuel⟩ : ∃ fuel, (k ++ (w ++ content)).length = fuel + 1 :=
    ⟨(k ++ (w ++ content)).length - 1, by rw [List.length_append]; omega⟩
  rw [mergeAll, hfuel, readUntil, if_neg (by omega), hk.mergeRecord, oneOfReader, hi]
  dsimp only [Option.map_some]
  rw [OneOf.valueAt, mergeDelimited_whole (hinner i) hw]
  cases mergeAll (inside i) (inner i) budget (blank i) content with
  | error e => rfl
  | ok v =>
      -- after the one record nothing is left to be read
      cases fuel <;> rfl

end Wire

/-! ### Frames around a body -/

/-- What the bytes of a body come to by its shape: the fault that a frame around it tells, a
violation, or the body. -/
def Shape.readBody (s : Shape) (bytes : Bytes) : Except MessageError (Body s) := do
  let raw ← (Wire.mergeAll s.wireName s.readers Shape.depth s.blank bytes).mapError fun fault =>
    .decode (.wire ((fault.within Frame.messageName Frame.groupName).within Frame.messageName
      Frame.groupName))
  (Body.check s raw).mapError fun v => .parse (.violation v)

/-- What the bytes of a body come to is a body, a malformed encoding, or a violation. -/
lemma Shape.readBody_error (s : Shape) {bytes : Bytes} {e : MessageError}
    (h : s.readBody bytes = .error e) :
    (∃ fault, e = .decode (.wire fault)) ∨ ∃ v, e = .parse (.violation v) := by
  rw [readBody] at h
  cases hmerge : Wire.mergeAll s.wireName s.readers Shape.depth s.blank bytes with
  | error fault =>
      rw [hmerge] at h
      cases h
      exact .inl ⟨_, rfl⟩
  | ok raw =>
      rw [hmerge, mapError_ok, ok_bind] at h
      cases hcheck : Body.check s raw with
      | error v =>
          rw [hcheck] at h
          cases h
          exact .inr ⟨v, rfl⟩
      | ok b =>
          rw [hcheck] at h
          cases h

/-- The message of a type of a given shape with a body of that shape. -/
def Message.ofBody {t : MessageType} {s : Shape} (h : t.shape = s) (body : Body s) : Message :=
  ⟨t, h ▸ body⟩

/-- What a frame around a body holds is what the records of the body come to. -/
lemma MessageType.Wraps.decode_eq {t : MessageType} {body frame : Bytes} (h : t.Wraps body frame) :
    Frame.decode frame =
      ((Wire.mergeAll t.shape.wireName t.shape.readers Shape.depth t.shape.blank body).mapError
        fun fault => (fault.within Frame.messageName Frame.groupName).within Frame.messageName
          Frame.groupName).map fun raw => Branch.wrap ⟨t.kind, raw⟩ := by
  obtain ⟨k, w, k', w', rfl, hk, hw, hk', hw'⟩ := h
  have hkind : Wire.mergeAll Frame.messageName (Frame.branchReaders t.domain) 99 none
      (k' ++ (w' ++ body)) = _ :=
    Wire.mergeAll_oneOf (fun k : Kind t.domain => (Kind.shape k).wireName)
      (fun k => (Kind.shape k).readers) (fun k => (Kind.shape k).isSteady)
      (Kind.ofWireTag?_tag t.kind) hk' hw'
  have hdomain : Wire.mergeAll Frame.messageName Frame.readers Wire.maxDepth none
      (k ++ (w ++ (k' ++ (w' ++ body)))) = _ :=
    Wire.mergeAll_oneOf (fun _ => Frame.messageName) Frame.branchReaders Frame.isSteady_branch
      t.domain.ofWireTag?_tag hk hw
  rw [hkind] at hdomain
  have htwice : ∀ x : Except Fault t.shape.Raw,
      (((x.mapError (.within Frame.messageName Frame.groupName)).map fun raw =>
        (some ⟨t.kind, raw⟩ : Option (Branch t.domain))).mapError
          (.within Frame.messageName Frame.groupName)).map
            (fun branch => (some ⟨t.domain, branch⟩ : Frame)) =
        (x.mapError fun fault => (fault.within Frame.messageName Frame.groupName).within
          Frame.messageName Frame.groupName).map fun raw => Branch.wrap ⟨t.kind, raw⟩ := by
    intro x
    cases x with
    | error fault => rfl
    | ok raw => rfl
  exact hdomain.trans (htwice _)

/-- A message whose frame holds one body is what the body comes to by its shape. -/
lemma Message.decode_eq_readBody {t : MessageType} {s : Shape} {body frame : Bytes}
    (h : t.shape = s) (hframe : t.Wraps body frame) :
    decode frame = (s.readBody body).map (ofBody h) := by
  obtain rfl := h
  rw [decode, Envelope.decode, hframe.decode_eq, Shape.readBody]
  cases Wire.mergeAll t.shape.wireName t.shape.readers Shape.depth t.shape.blank body with
  | error fault => rfl
  | ok raw =>
      rw [mapError_ok, mapError_ok, ok_bind]
      have hunpack : Envelope.unpack ⟨Branch.wrap ⟨t.kind, raw⟩⟩ =
          (Body.check t.shape raw).mapError (fun v => .parse (.violation v)) >>= fun b =>
            .ok ⟨t, b⟩ := rfl
      refine Eq.trans hunpack ?_
      cases Body.check t.shape raw with
      | error v => rfl
      | ok b => rfl

/-- To a receiver of the type that the body is wrapped in, a frame is what it is to one of any
message. -/
lemma Message.map_decodeAs {t : MessageType} {body frame : Bytes} (hframe : t.Wraps body frame) :
    (decodeAs t frame).map (Message.mk t) = decode frame := by
  rw [decodeAs, decode, Envelope.decode, hframe.decode_eq]
  cases Wire.mergeAll t.shape.wireName t.shape.readers Shape.depth t.shape.blank body with
  | error fault => rfl
  | ok raw =>
      change Except.map _ (Except.mapError _ (Envelope.unpackAs ⟨Branch.wrap ⟨t.kind, raw⟩⟩ t)) =
        Envelope.unpack ⟨Branch.wrap ⟨t.kind, raw⟩⟩
      have ht : Envelope.messageType ⟨Branch.wrap ⟨t.kind, raw⟩⟩ = .ok t := rfl
      rcases Envelope.unpackAs_cases ht with ⟨b, htyped, hdynamic⟩ | ⟨v, htyped, hdynamic⟩
      · rw [htyped, hdynamic]
        rfl
      · rw [htyped, hdynamic]
        rfl

/-- The bytes of a message are the shortest frame around the bytes of its fields. -/
lemma Message.encode_ofBody {t : MessageType} {s : Shape} (h : t.shape = s) (b : Body s) :
    (ofBody h b).encode = t.around (s.write b.toRaw) := by
  obtain rfl := h
  exact t.encode_eq_around b.toRaw

end RadioFrame
