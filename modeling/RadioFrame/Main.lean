import RadioFrame.Inspect.Program

/-!
The inspector as a program: reads the file of the settings, prints what there is to print and ends.
-/

namespace RadioFrame.Inspect

/-- Finds what a file holds. -/
def sourceOf (path : String) : IO Source := do
  try
    let content ← IO.FS.readBinFile path
    return .content content.toList
  catch
    | .noFileOrDirectory .. => return .missing
    | e => return .unreadable (toString e)

/-- Runs the program and prints. -/
def runAndPrint (args : List String) : IO UInt32 := do
  let source ← match settingsFile? args with
    | some path => sourceOf path
    | none => pure .unnamed
  let outcome := run args source
  (← IO.getStdout).putStr outcome.output
  (← IO.getStderr).putStr outcome.errors
  return outcome.exitCode.toUInt32

end RadioFrame.Inspect

/-- The entry of the program. -/
def main (args : List String) : IO UInt32 := RadioFrame.Inspect.runAndPrint args
