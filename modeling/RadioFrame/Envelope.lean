import RadioFrame.Message

/-!
Envelopes: one frame, received or about to be sent.

An envelope is made empty and filled by packing a message, or decoded from bytes. It answers what it
holds without converting anything, so that a frame whose fields are not acceptable can be looked at,
kept and sent on; `unpack` is where the fields are checked.
-/

namespace RadioFrame

/-- One frame. -/
structure Envelope where
  /-- What it holds. -/
  frame : Frame
  deriving DecidableEq

namespace Envelope

/-- The envelope that holds nothing. -/
def empty : Envelope := ⟨none⟩

instance : Inhabited Envelope := ⟨empty⟩

/-- Takes everything out. -/
def clear (_ : Envelope) : Envelope := empty

/-- Whether it holds nothing. -/
def isEmpty (e : Envelope) : Bool := e.frame.isNone

/-- The bytes of what it holds. -/
def encode (e : Envelope) : Bytes := e.frame.encode

/-! ### What it holds -/

/-- The domain it holds. -/
def domain (e : Envelope) : Except DecodeError Domain :=
  match e.frame with
  | none => .error .noDomain
  | some ⟨d, _⟩ => .ok d

/-- The type of the message it holds. -/
def messageType (e : Envelope) : Except DecodeError MessageType :=
  match e.frame with
  | none => .error .noDomain
  | some ⟨d, none⟩ => .error (.unknownKind d)
  | some ⟨d, some ⟨k, _⟩⟩ => .ok ⟨d, k⟩

/-- Reads an envelope. The bytes have to be a frame, and both its levels have to be known. -/
def decode (bytes : Bytes) : Except DecodeError Envelope := do
  let frame ← (Frame.decode bytes).mapError .wire
  let _ ← messageType ⟨frame⟩
  .ok ⟨frame⟩

/-! ### Messages -/

/-- Puts a message in, in place of whatever was there. -/
def pack (_ : Envelope) (m : Message) : Envelope := ⟨m.toFrame⟩

/-- Puts the fields of a message of a given type in. -/
def packAs (_ : Envelope) (t : MessageType) (body : Body t.shape) : Envelope :=
  ⟨Branch.wrap ⟨t.kind, body.toRaw⟩⟩

/-- The envelope of a message. -/
def ofMessage (m : Message) : Envelope := empty.pack m

/-- Takes out the message it holds, checking its fields. -/
def unpack (e : Envelope) : Except MessageError Message :=
  match e.frame with
  | none => .error (.decode .noDomain)
  | some ⟨d, none⟩ => .error (.decode (.unknownKind d))
  | some ⟨d, some ⟨k, raw⟩⟩ => do
      let body ← (Body.check (Kind.shape k) raw).mapError fun v => .parse (.violation v)
      .ok ⟨⟨d, k⟩, body⟩

/-- The raw fields it holds, if they are those of a given type. -/
def rawOf? (e : Envelope) (t : MessageType) : Option t.shape.Raw :=
  match e.frame with
  | some ⟨d, some ⟨k, raw⟩⟩ =>
      if h : (⟨d, k⟩ : MessageType) = t then
        some (h ▸ (raw : (MessageType.shape ⟨d, k⟩).Raw))
      else none
  | _ => none

/-- Takes out the fields of a message of a given type, checking them. -/
def unpackAs (e : Envelope) (t : MessageType) : Except ParseError (Body t.shape) :=
  match e.rawOf? t with
  | some raw => (Body.check t.shape raw).mapError .violation
  | none => .error (.kindMismatch t e.messageType.toOption)

end Envelope

/-! ### Whole frames -/

namespace Message

/-- Reads the message of a byte string. -/
def decode (bytes : Bytes) : Except MessageError Message := do
  let e ← (Envelope.decode bytes).mapError .decode
  e.unpack

/-- The bytes of the fields of a message of a given type. -/
def encodeAs (t : MessageType) (body : Body t.shape) : Bytes :=
  (Envelope.empty.packAs t body).encode

/-- Reads the fields of a byte string that should be a message of a given type. -/
def decodeAs (t : MessageType) (bytes : Bytes) : Except MessageError (Body t.shape) := do
  let e ← (Envelope.decode bytes).mapError .decode
  (e.unpackAs t).mapError .parse

end Message

end RadioFrame
