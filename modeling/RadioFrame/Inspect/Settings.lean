import RadioFrame.Bytes
import RadioFrame.Json.Value
import RadioFrame.Toml.Document

/-!
Settings: how long a frame may be, and how messages are laid out.

They are read from a file in TOML. What the file does not set keeps its default, and what is no
setting is passed over.
-/

namespace RadioFrame.Inspect

/-- The settings. -/
structure Settings where
  /-- The most bytes of a frame. -/
  maxFrameLength : Nat := 1024
  /-- Whether messages are shown on indented lines. -/
  pretty : Bool := true
  deriving DecidableEq, Repr

namespace Settings

instance : Inhabited Settings := ⟨{}⟩

/-- The layout of messages. -/
def layout (s : Settings) : Json.Layout := if s.pretty then .indented else .compact

/-- The value of a setting of a document: the default if it is not set, nothing if it is set to
something else than such a value. -/
def setting? {α : Type} (doc : Toml.Store) (name : String) (accept : Toml.Value → Option α)
    (absent : α) : Option α :=
  match doc.find? [.key name] with
  | none => some absent
  | some (.value v) => accept v
  | some _ => none

/-- A length, which is not negative. -/
def length? : Toml.Value → Option Nat
  | .integer n => if 0 ≤ n then some n.toNat else none
  | _ => none

/-- A truth value. -/
def truth? : Toml.Value → Option Bool
  | .bool b => some b
  | _ => none

/-- The settings that a text spells. -/
def ofText? (text : String) : Option Settings := do
  let doc ← Toml.document? text.toList
  let maxFrameLength ← setting? doc "max_frame_len" length? (default : Settings).maxFrameLength
  let pretty ← setting? doc "pretty" truth? (default : Settings).pretty
  some { maxFrameLength, pretty }

end Settings

/-! ### Files -/

/-- Where settings can come from. -/
inductive Source where
  /-- No file was named. -/
  | unnamed
  /-- A file was named that does not exist. -/
  | missing
  /-- A file was named that cannot be read, for some reason. -/
  | unreadable (reason : String)
  /-- The content of the file that was named. -/
  | content (bytes : Bytes)
  deriving DecidableEq, Repr

/-- Why settings cannot be had. -/
inductive SettingsFault where
  /-- There is no such file. -/
  | notFound
  /-- The file cannot be read. -/
  | unreadable (reason : String)
  /-- The file is not text, or spells no settings. -/
  | invalid
  deriving DecidableEq, Repr

/-- The wording of a fault. -/
def SettingsFault.message : SettingsFault → String
  | notFound => "No such file or directory (os error 2)"
  | unreadable reason => reason
  | invalid => "the file does not hold valid settings"

/-- The settings of a source. -/
def Settings.load : Source → Except SettingsFault Settings
  | .unnamed => .ok default
  | .missing => .error .notFound
  | .unreadable reason => .error (.unreadable reason)
  | .content bytes =>
      match (String.fromUTF8? ⟨bytes.toArray⟩).bind Settings.ofText? with
      | some s => .ok s
      | none => .error .invalid

end RadioFrame.Inspect
