import CommitStyle.Command.Run

/-!
# The program

The command line on a machine: its files, its environment and its terminal.
-/

namespace CommitStyle

/-- The reason of an error of the machine. -/
def fileErrorOf : IO.Error → FileError
  | .noFileOrDirectory .. => .missing
  | .inappropriateType .. => .isADirectory
  | e => .other (toString e)

/-- The outcome of an action of the machine. -/
def attempt {α : Type} (action : IO α) : IO (Except FileError α) := do
  match ← action.toBaseIO with
  | .ok a => return .ok a
  | .error e => return .error (fileErrorOf e)

/-- The machine that the program runs on. -/
def machine : Host IO where
  environment := fun name => IO.getEnv name
  currentDirectory := return Path.ofRooted (← IO.currentDir).toString
  pathExists path := do
    match ← attempt (IO.FS.Handle.mk path .read) with
    | .error .missing => return false
    | _ => return true
  readFile path := attempt (IO.FS.readBinFile path)
  writeFile path content := attempt (IO.FS.writeBinFile path content)
  readInput := do (← IO.getStdin).readBinToEnd
  print text := IO.print (String.ofList text)

/-- A line on the error output. -/
def complain (reason : String) : IO Unit := do
  (← IO.getStderr).putStrLn ("Error: " ++ reason)

end CommitStyle

open CommitStyle

/-- Succeeds with 0, fails with 1 if a message failed, and with 2 for any other reason. -/
def main (args : List String) : IO UInt32 := do
  let defaults : Defaults := {
    strict := ← IO.getEnv "CMLINT_STRICT"
    config := ← IO.getEnv "CMLINT_CONFIG" }
  match Invocation.parse defaults args with
  | .error e =>
    complain e.name
    return 2
  | .ok invocation =>
    let color := (← IO.getEnv "NO_COLOR").isNone && (← (← IO.getStdout).isTty)
    match ← (invocation.run machine color).run with
    | .ok () => return 0
    | .error (.error (.failed errors warnings)) =>
      complain (Error.failed errors warnings).message
      return 1
    | .error (.error e) =>
      complain e.message
      return 2
    | .error (.misuse e) =>
      complain e.message
      return 2
