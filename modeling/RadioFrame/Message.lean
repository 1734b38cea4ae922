import RadioFrame.Frame

/-!
Messages: frames whose content has been checked.

`Message.toFrame` puts a message on the wire and `Message.ofFrame` takes it off again, checking it.
The errors are those of three steps: reading the bytes, finding out what they hold, and checking the
fields.
-/

namespace RadioFrame

/-- A message of any type. -/
structure Message where
  /-- Its type. -/
  type : MessageType
  /-- Its fields. -/
  body : Body type.shape

namespace Message

instance decEq : DecidableEq Message
  | ⟨s, a⟩, ⟨t, b⟩ =>
      if h : s = t then by
        subst h
        exact if hb : a = b then isTrue (by rw [hb])
          else isFalse fun e => hb (eq_of_heq (Message.mk.inj e).2)
      else isFalse fun e => h (Message.mk.inj e).1

/-- The message as it stands on the wire. -/
def toFrame (m : Message) : Frame := some ⟨m.type.domain, some ⟨m.type.kind, m.body.toRaw⟩⟩

/-- The bytes of a message. -/
def encode (m : Message) : Bytes := m.toFrame.encode

end Message

/-- A message of one domain: one of its kinds, with the fields of that kind. -/
abbrev DomainMessage (d : Domain) : Type := OneOf fun k : Kind d => Body (Kind.shape k)

namespace DomainMessage

variable {d : Domain}

/-- The message as it stands on the wire, inside its domain. -/
def toBranch (m : DomainMessage d) : Branch d := ⟨m.member, m.value.toRaw⟩

/-- The message among those of all domains. -/
def toMessage (m : DomainMessage d) : Message := ⟨⟨d, m.member⟩, m.value⟩

end DomainMessage

/-! ### Errors -/

/-- Why bytes are no message of the protocol. -/
inductive DecodeError where
  /-- They are no frame. -/
  | wire (fault : Wire.Fault)
  /-- The frame holds no known domain. -/
  | noDomain
  /-- The domain holds no known kind. -/
  | unknownKind (domain : Domain)
  deriving DecidableEq, Repr

/-- The wording of a decoding error. -/
def DecodeError.message : DecodeError → String
  | wire fault => "malformed wire encoding: " ++ fault.text
  | noDomain => "envelope carries no known domain"
  | unknownKind d => s!"unknown message kind in domain {d.name}"

/-- Why a message cannot be taken out of a frame. -/
inductive ParseError where
  /-- The frame holds a message of another type, or none. -/
  | kindMismatch (expected : MessageType) (found : Option MessageType)
  /-- A field is not acceptable. -/
  | violation (violation : Violation)
  deriving DecidableEq

/-- The wording of a parsing error. -/
def ParseError.message : ParseError → String
  | kindMismatch expected found =>
      "expected " ++ expected.name ++ ", envelope holds " ++
        (match found with
          | some t => t.name
          | none => "nothing")
  | violation v => v.message

/-- Anything that can be wrong with bytes that should be a message. -/
inductive MessageError where
  /-- They cannot be decoded. -/
  | decode (error : DecodeError)
  /-- What they hold is not what it should be. -/
  | parse (error : ParseError)
  deriving DecidableEq

/-- The wording of an error. -/
def MessageError.message : MessageError → String
  | decode e => e.message
  | parse e => e.message

end RadioFrame
