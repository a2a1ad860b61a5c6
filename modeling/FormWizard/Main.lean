import FormWizard.CommandLine.Run
import Std.Time.DateTime.Timestamp

/-! The program: it reads the files that its arguments name, and prints and writes what comes of
the command.
-/

namespace FormWizard.CommandLine

open Calendar (Instant)

/-- The number of a system error, which some operations give as its complement. -/
def errorNumber (code : UInt32) : Nat :=
  if code.toNat < Nat.pow 2 31 then code.toNat else Nat.pow 2 32 - code.toNat

/-- The reason of a failed file operation, with the number of the system error. -/
def reason (error : IO.Error) : String :=
  let numbered := fun (code : UInt32) (details : String) =>
    details.capitalize ++ " (os error " ++ Text.integer (errorNumber code) ++ ")"
  match error with
  | .noFileOrDirectory _ code details | .permissionDenied _ code details
  | .inappropriateType _ code details | .invalidArgument _ code details
  | .resourceExhausted _ code details | .noSuchThing _ code details
  | .otherError code details => numbered code details
  | other => toString other

/-- The text of a file, or the reason why it cannot be read. -/
def readFile (file : String) : IO (Except String String) := do
  try
    return .ok (← IO.FS.readFile file)
  catch error =>
    return .error (reason error)

/-- The texts of files. -/
def readFiles (names : List String) : IO Files := do
  let texts ← names.mapM fun name => return (name, ← readFile name)
  return fun name => (texts.lookup name).getD (.error "file was not read")

/-- The time of the system clock. -/
def readClock : IO Instant := do
  let now ← Std.Time.Timestamp.now
  return .ofNanoseconds now.toNanosecondsSinceUnixEpoch.toInt

/-- Writes the file of an outcome, or gives the reason why that fails. -/
def writeFile (outcome : Outcome) : IO (Option String) := do
  match outcome.written with
  | none => return none
  | some (file, text) =>
    try
      IO.FS.writeFile file text
      return none
    catch error =>
      return some (reason error)

/-- Prints an outcome and gives the exit code. -/
def finish (outcome : Outcome) : IO UInt32 := do
  outcome.notes.forM IO.eprintln
  match ← writeFile outcome with
  | some reason =>
    IO.eprintln ("Error: " ++ reason)
    return 1
  | none =>
    IO.print outcome.printed
    match outcome.failure with
    | none => return 0
    | some failure =>
      IO.eprintln ("Error: " ++ failure.message)
      return 1

end FormWizard.CommandLine

open FormWizard.CommandLine in
/-- Carries out the command that the arguments ask for. -/
def main (arguments : List String) : IO UInt32 := do
  match Invocation.ofArguments arguments with
  | .error error =>
    IO.eprintln ("error: " ++ error.message)
    return 2
  | .ok invocation =>
    let files ← readFiles invocation.files
    finish (invocation.run (← readClock) files)
