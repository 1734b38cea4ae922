import RadioFrame.Proofs.Message.RoundTrip

/-!
What an envelope says of itself, whatever was done with it.

A session (`Session`) is one envelope and the copies that were kept of it; an operation renews,
fills, clears, keeps or brings back (`Operation`). The type of an envelope has room for a domain
without a kind, but no operation makes one: `Envelope.IsKnown` holds of a new envelope, every
operation preserves it (`Session.isKnown_perform`), and so it holds after every run
(`Session.isKnown_run`).

`Session.current_run` states what follows for the envelope at the end of any run: its answers agree
with each other, what was packed last is what it holds, and unless it is empty it is read back from
its bytes, even when its fields are not acceptable. The bytes are fewer than `2 ^ 64`, as those of
any byte string that fits an address space: a longer length could not be written before a record.
-/

namespace RadioFrame

/-! ### Sessions -/

/-- What can be done with an envelope and the copies that were kept of it. -/
inductive Operation where
  /-- Puts a new envelope in its place. -/
  | renew
  /-- Puts the envelope of a byte string in its place, if there is one. -/
  | decode (bytes : Bytes)
  /-- Puts the envelope of a message in its place. -/
  | convert (m : Message)
  /-- Packs a message. -/
  | pack (m : Message)
  /-- Packs the fields of a message of a given type. -/
  | packAs (t : MessageType) (body : Body t.shape)
  /-- Takes everything out. -/
  | clear
  /-- Keeps a copy, before all that were kept earlier. -/
  | save
  /-- Puts a copy in its place, if there is one at that place. -/
  | restore (place : Nat)

/-- The message that an operation puts into the envelope, if it puts one in. -/
def Operation.message? : Operation → Option Message
  | convert m | pack m => some m
  | packAs t body => some ⟨t, body⟩
  | renew | decode _ | clear | save | restore _ => none

/-- An envelope and the copies that were kept of it. -/
structure Session where
  /-- The envelope. -/
  current : Envelope
  /-- The copies, the latest first. -/
  saved : List Envelope

namespace Session

/-- A new envelope, and no copies. -/
def start : Session := ⟨.empty, []⟩

/-- Puts an envelope in the place of the current one, if there is one. -/
def replace (s : Session) : Option Envelope → Session
  | some e => { s with current := e }
  | none => s

/-- Carries out an operation. -/
def perform (s : Session) : Operation → Session
  | .renew => s.replace (some .empty)
  | .decode bytes => s.replace (Envelope.decode bytes).toOption
  | .convert m => s.replace (some (.ofMessage m))
  | .pack m => s.replace (some (s.current.pack m))
  | .packAs t body => s.replace (some (s.current.packAs t body))
  | .clear => s.replace (some s.current.clear)
  | .save => { s with saved := s.current :: s.saved }
  | .restore place => s.replace s.saved[place]?

/-- Carries out operations, one after the other. -/
def run (s : Session) (operations : List Operation) : Session := operations.foldl perform s

end Session

/-! ### What is known of an envelope -/

namespace Envelope

/-- An envelope holds nothing, or a message of a type. -/
def IsKnown (e : Envelope) : Prop := e = empty ∨ ∃ t, e.messageType = .ok t

/-- The answers of an envelope that holds nothing. -/
structure IsBlank (e : Envelope) : Prop where
  /-- It says so. -/
  isEmpty : e.isEmpty = true
  /-- It has no domain. -/
  domain : e.domain = .error .noDomain
  /-- It has no type. -/
  messageType : e.messageType = .error .noDomain
  /-- No message can be taken out. -/
  unpack : e.unpack = .error (.decode .noDomain)
  /-- It has no bytes. -/
  encode : e.encode = []

/-- The answers of an envelope that holds a message, acceptable or not, of a given type. -/
structure Holds (e : Envelope) (t : MessageType) : Prop where
  /-- It is not empty. -/
  isEmpty : e.isEmpty = false
  /-- Its domain is that of the type. -/
  domain : e.domain = .ok t.domain
  /-- Its type is the given one. -/
  messageType : e.messageType = .ok t

lemma isBlank_empty : IsBlank empty := ⟨rfl, rfl, rfl, rfl, rfl⟩

lemma holds_of_messageType {e : Envelope} {t : MessageType} (h : e.messageType = .ok t) :
    e.Holds t := by
  obtain ⟨frame⟩ := e
  rcases frame with _ | ⟨d, _ | ⟨k, raw⟩⟩
  · cases h
  · cases h
  · cases h
    exact ⟨rfl, rfl, rfl⟩

/-- A known envelope gives the answers of an empty one or those of a full one. -/
lemma IsKnown.blank_or_holds {e : Envelope} (h : e.IsKnown) : e.IsBlank ∨ ∃ t, e.Holds t := by
  rcases h with rfl | ⟨t, ht⟩
  · exact .inl isBlank_empty
  · exact .inr ⟨t, holds_of_messageType ht⟩

/-- A message is packed over whatever was there. -/
lemma pack_eq_ofMessage (e : Envelope) (m : Message) : e.pack m = ofMessage m := rfl

/-- Fields that are packed under their type leave what their message leaves. -/
lemma packAs_eq_ofMessage (e : Envelope) (t : MessageType) (body : Body t.shape) :
    e.packAs t body = ofMessage ⟨t, body⟩ := rfl

lemma isKnown_ofMessage (m : Message) : (ofMessage m).IsKnown := .inr ⟨m.type, rfl⟩

lemma isKnown_pack (e : Envelope) (m : Message) : (e.pack m).IsKnown := by
  rw [pack_eq_ofMessage]
  exact isKnown_ofMessage m

lemma isKnown_packAs (e : Envelope) (t : MessageType) (body : Body t.shape) :
    (e.packAs t body).IsKnown := by
  rw [packAs_eq_ofMessage]
  exact isKnown_ofMessage ⟨t, body⟩

lemma isKnown_decode {bytes : Bytes} {e : Envelope} (h : decode bytes = .ok e) : e.IsKnown :=
  .inr (decode_eq_ok_iff.mp h).2

/-- The fields of a message that is held are checked, and no more can be wrong with them. -/
lemma unpack_ne_unknownKind {e : Envelope} (h : e.IsKnown) (d : Domain) :
    e.unpack ≠ .error (.decode (.unknownKind d)) := by
  obtain ⟨frame⟩ := e
  rcases frame with _ | ⟨d', _ | ⟨k, raw⟩⟩
  · intro hunpack
    cases hunpack
  · rcases h with h | ⟨t, h⟩
    · cases h
    · cases h
  · intro hunpack
    change ((Body.check (Kind.shape k) raw).mapError _ >>= _) = _ at hunpack
    cases hcheck : Body.check (Kind.shape k) raw with
    | error v =>
        rw [hcheck] at hunpack
        cases hunpack
    | ok body =>
        rw [hcheck] at hunpack
        cases hunpack

/-- The fields of a type are not found, and nothing else is, just in an envelope that is empty. -/
lemma unpackAs_eq_nothing_iff {e : Envelope} (h : e.IsKnown) (t expected : MessageType) :
    e.unpackAs t = .error (.kindMismatch expected none) ↔ expected = t ∧ e.isEmpty = true := by
  rcases h with rfl | ⟨u, hu⟩
  · constructor
    · intro hnothing
      cases hnothing
      exact ⟨rfl, rfl⟩
    · rintro ⟨rfl, _⟩
      rfl
  · have hfull := (holds_of_messageType hu).isEmpty
    constructor
    · intro hnothing
      rw [unpackAs] at hnothing
      split at hnothing
      · next raw _ =>
          cases hcheck : Body.check t.shape raw with
          | error v =>
              rw [hcheck] at hnothing
              cases hnothing
          | ok body =>
              rw [hcheck] at hnothing
              cases hnothing
      · rw [hu] at hnothing
        cases hnothing
    · rintro ⟨_, hempty⟩
      rw [hempty] at hfull
      cases hfull

/-- An envelope that holds a message of some type is read back from its bytes. -/
lemma decode_encode_of_known {e : Envelope} (h : e.IsKnown) (hfull : e.isEmpty = false)
    (hlen : e.encode.length < 2 ^ 64) : decode e.encode = .ok e := by
  rcases h with rfl | htype
  · cases hfull
  · exact decode_eq_ok_iff.mpr ⟨Frame.merge_encode e.frame hlen, htype⟩

end Envelope

/-! ### Runs -/

namespace Session

/-- The envelope of a session is known, and so are all copies. -/
def IsKnown (s : Session) : Prop := s.current.IsKnown ∧ ∀ e ∈ s.saved, e.IsKnown

lemma isKnown_start : start.IsKnown := ⟨.inl rfl, fun _ h => nomatch h⟩

lemma IsKnown.replace {s : Session} (h : s.IsKnown) {e : Envelope} (he : e.IsKnown) :
    (s.replace (some e)).IsKnown := ⟨he, h.2⟩

/-- Every operation keeps a session known. -/
lemma isKnown_perform {s : Session} (h : s.IsKnown) (operation : Operation) :
    (s.perform operation).IsKnown := by
  cases operation with
  | renew | clear => exact h.replace (.inl rfl)
  | convert m => exact h.replace (Envelope.isKnown_ofMessage m)
  | pack m => exact h.replace (Envelope.isKnown_pack _ m)
  | packAs t body => exact h.replace (Envelope.isKnown_packAs _ t body)
  | decode bytes =>
      rw [perform]
      cases hdecode : Envelope.decode bytes with
      | error fault => exact h
      | ok e => exact h.replace (Envelope.isKnown_decode hdecode)
  | save => exact ⟨h.1, fun e he => (List.mem_cons.mp he).elim (· ▸ h.1) (h.2 e)⟩
  | restore place =>
      rw [perform]
      cases hplace : s.saved[place]? with
      | none => exact h
      | some e => exact h.replace (h.2 e (List.mem_of_getElem? hplace))

/-- Every run keeps a session known. -/
lemma isKnown_run {s : Session} (h : s.IsKnown) (operations : List Operation) :
    (s.run operations).IsKnown := by
  induction operations generalizing s with
  | nil => exact h
  | cons operation operations ih => exact ih (isKnown_perform h operation)

/-- An operation that puts a message in leaves the envelope of the message, whatever was there. -/
lemma current_perform_of_message {operation : Operation} {m : Message}
    (h : operation.message? = some m) (s : Session) :
    (s.perform operation).current = .ofMessage m := by
  cases operation with
  | convert m' =>
      cases h
      rfl
  | pack m' =>
      cases h
      exact Envelope.pack_eq_ofMessage s.current m
  | packAs t body =>
      cases h
      exact Envelope.packAs_eq_ofMessage s.current t body
  | renew | decode _ | clear | save | restore _ => cases h

/-- What can be said of the envelope at the end of any run that begins with a new one. -/
theorem current_run (operations : List Operation) :
    let s := start.run operations
    let e := s.current
    (e.IsBlank ∨ ∃ t, e.Holds t) ∧
      (∀ d, e.domain ≠ .error (.unknownKind d) ∧ e.messageType ≠ .error (.unknownKind d) ∧
        e.unpack ≠ .error (.decode (.unknownKind d))) ∧
      (∀ t expected, e.unpackAs t = .error (.kindMismatch expected none) ↔
        expected = t ∧ e.isEmpty = true) ∧
      (∀ operation m, operation.message? = some m →
        (s.perform operation).current = .ofMessage m ∧
          (s.perform operation).current.messageType = .ok m.type ∧
          (s.perform operation).current.unpack = .ok m) ∧
      (s.perform .clear).current = .empty ∧
      (e.isEmpty = false → e.encode.length < 2 ^ 64 → Envelope.decode e.encode = .ok e) := by
  intro s e
  have hknown : e.IsKnown := (isKnown_run isKnown_start operations).1
  refine ⟨hknown.blank_or_holds, fun d => ⟨?_, ?_, Envelope.unpack_ne_unknownKind hknown d⟩,
    Envelope.unpackAs_eq_nothing_iff hknown, fun operation m hm => ?_, rfl,
    Envelope.decode_encode_of_known hknown⟩
  · rcases hknown.blank_or_holds with h | ⟨t, h⟩
    · simp [h.domain]
    · simp [h.domain]
  · rcases hknown.blank_or_holds with h | ⟨t, h⟩
    · simp [h.messageType]
    · simp [h.messageType]
  · rw [current_perform_of_message hm]
    exact ⟨rfl, rfl, Envelope.unpack_eq_ok_iff.mpr rfl⟩

/-- A packet whose direction is the number of no word is received and kept; what comes then is no
frame, and after everything was taken out the packet is brought back. -/
def keptPacket : List Operation :=
  [.pack Message.lowEnergyDevice, .decode [0x1a, 5, 0x82, 1, 2, 8, 9], .save, .decode [0x1a],
    .clear, .restore 0]

/-- No message can be taken out of the envelope, and still it is read back from its bytes; and it
can be packed as any other, with a message or with the fields of one. -/
theorem current_run_keptPacket :
    let s := start.run keptPacket
    s.current.unpack = .error (.parse (.violation ⟨"direction", .unknownNumber 9⟩)) ∧
      (s.current.isEmpty = false ∧ s.current.encode.length < 2 ^ 64 ∧
        Envelope.decode s.current.encode = .ok s.current) ∧
      (s.perform (.pack Message.preparedSequence)).current.unpack = .ok Message.preparedSequence ∧
      (s.perform (.packAs Message.lowEnergyDevice.type Message.lowEnergyDevice.body)).current.unpack
        = .ok Message.lowEnergyDevice :=
  ⟨by decide,
    ⟨by decide, by decide, (current_run keptPacket).2.2.2.2.2 (by decide) (by decide)⟩,
    ((current_run keptPacket).2.2.2.1 (.pack Message.preparedSequence) _ rfl).2.2,
    ((current_run keptPacket).2.2.2.1 (.packAs _ Message.lowEnergyDevice.body) _ rfl).2.2⟩

end Session

end RadioFrame
