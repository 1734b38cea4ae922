import RadioFrame.Inspect.CommandLine
import RadioFrame.Inspect.Report

/-!
The inspector as a whole: what it prints and how it ends, for a command line and the settings it
finds.

Frames are decoded one after the other. The first that fails ends the work; what was printed before
stays printed.
-/

namespace RadioFrame.Inspect

/-- How a run of the program ends. -/
structure Outcome where
  /-- The exit code: 0, 1 for a failure, 2 for a command line that was not understood. -/
  exitCode : UInt8
  /-- What was printed. -/
  output : String
  /-- What was printed as an error. -/
  errors : String
  deriving DecidableEq, Repr

namespace Outcome

/-- A run that succeeds. -/
def success (output : String) : Outcome := ⟨0, output, ""⟩

/-- A run that fails after some output. -/
def failure (output : String) (f : Failure) : Outcome :=
  ⟨1, output, s!"whad-inspect error: {f.message}\n"⟩

/-- A run whose command line was not understood. -/
def misuse (reason : String) : Outcome :=
  ⟨2, "", s!"error: {reason}\n\nFor more information, try '--help'.\n"⟩

/-- Prints something before all that a run prints. -/
def after (line : String) (o : Outcome) : Outcome := { o with output := line ++ o.output }

end Outcome

/-- Decodes frames and shows their messages. -/
def decodeAll (settings : Settings) : List String → Outcome
  | [] => .success ""
  | typed :: rest =>
      match decodeFrame settings typed with
      | .ok m => (decodeAll settings rest).after ((shown m).render settings.layout ++ "\n")
      | .error f => .failure "" f

/-- The domain that a name asks for, if any. -/
def domainOf : Option String → Except Failure (Option Domain)
  | none => .ok none
  | some name =>
      match Domain.ofName? name with
      | some d => .ok (some d)
      | none => .error (.unknownDomain name)

/-- Carries out a command. -/
def perform (settings : Settings) : Command → Outcome
  | .decode frames => decodeAll settings frames
  | .encode text =>
      match encodeText text with
      | .ok digits => .success (digits ++ "\n")
      | .error f => .failure "" f
  | .kinds domain =>
      match domainOf domain with
      | .ok domain => .success ((shownTypes domain).render settings.layout ++ "\n")
      | .error f => .failure "" f

/-- Runs the program on a command line. The settings come from the file that it names, if any. -/
def run (args : List String) (source : Source) : Outcome :=
  match request args with
  | .help page => .success page.text
  | .misuse reason => .misuse reason
  | .run _ command =>
      match Settings.load source with
      | .ok settings => perform settings command
      | .error fault => .failure "" (.settings fault)

end RadioFrame.Inspect
