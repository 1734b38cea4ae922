import RadioFrame.Envelope
import RadioFrame.Inspect.Input
import RadioFrame.Inspect.Settings
import RadioFrame.Message.Text

/-!
What the inspector does: decoding typed frames, building frames from text, and listing what kinds of
message there are.

A frame is checked in this order: its digits, its length, its content.
-/

namespace RadioFrame.Inspect

/-! ### Failures -/

/-- Why something was not done. -/
inductive Failure where
  /-- A typed frame has bad digits. -/
  | input (fault : InputFault)
  /-- A frame is longer than the settings allow. -/
  | tooLong (length limit : Nat)
  /-- A frame is no message. -/
  | frame (input : String) (error : MessageError)
  /-- A text is no message. -/
  | json (fault : Json.Fault)
  /-- No domain has a name. -/
  | unknownDomain (name : String)
  /-- The settings cannot be had. -/
  | settings (fault : SettingsFault)

/-- The causes that are told once more after the wording of an error. -/
def causes : MessageError → List String
  | .decode (.wire fault) => [fault.text]
  | .parse (.violation ⟨_, .overflow o⟩) => [o.message]
  | _ => []

/-- What is wrong with a text, in words. -/
def faultWords : Json.Fault → String
  | .malformed => "malformed JSON"
  | .complaint c => c.message

/-- What happened and why, from the outermost to the innermost. -/
def Failure.chain : Failure → List String
  | input fault => [fault.message]
  | tooLong length limit => [s!"frame of {length} bytes exceeds max_frame_len {limit}"]
  | frame typed error => s!"cannot decode frame {typed}" :: error.message :: causes error
  | json fault => ["invalid message JSON", faultWords fault]
  | unknownDomain name => [s!"unknown domain '{name}'"]
  | settings fault => [fault.message]

/-- The wording of a failure. -/
def Failure.message (f : Failure) : String := ": ".intercalate f.chain

/-! ### Decoding and building frames -/

/-- The message of a typed frame. -/
def decodeFrame (settings : Settings) (typed : String) : Except Failure Message := do
  let bytes ← (parseHex typed).mapError .input
  if settings.maxFrameLength < bytes.length then
    .error (.tooLong bytes.length settings.maxFrameLength)
  else (Message.decode bytes).mapError (.frame typed)

/-- What is shown of a message: its type and its content. -/
def shown (m : Message) : Json.Value :=
  .ofMembers [("type", .text m.type.name), ("message", m.toJson)]

/-- The digits of the frame of a message in text form. -/
def encodeText (text : String) : Except Failure String := do
  let m ← (Message.ofText text).mapError .json
  .ok (String.ofList (Hex.encode m.encode))

/-! ### Kinds -/

/-- The types of message of a domain, or of all. -/
def typesOf : Option Domain → List MessageType
  | none => MessageType.all
  | some d => MessageType.all.filter fun t => t.domain = d

/-- What is shown of a type: its name and its tags. -/
def shownType (t : MessageType) : Json.Value :=
  .ofMembers
    [("type", .text t.name), ("domain_tag", .number t.domain.tag), ("kind_tag", .number t.kindTag)]

/-- What is shown of the types of a domain, or of all. -/
def shownTypes (domain : Option Domain) : Json.Value :=
  .ofElements ((typesOf domain).map shownType)

end RadioFrame.Inspect
