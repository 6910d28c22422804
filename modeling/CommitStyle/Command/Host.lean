import CommitStyle.Path

/-!
# The host of a command

What a command asks of its surroundings, as a record of operations, so that the same command runs on
a machine and on a tree of files in memory.
-/

namespace CommitStyle

/-- Why a file cannot be read or written. -/
inductive FileError where
  | missing
  | notADirectory
  | isADirectory
  | nameTooLong
  /-- The bytes are no text. -/
  | notText
  | other (reason : String)
  deriving DecidableEq, Repr

/-- The text of an error of a file. -/
def FileError.message : FileError → String
  | .missing => "No such file or directory (os error 2)"
  | .notADirectory => "Not a directory (os error 20)"
  | .isADirectory => "Is a directory (os error 21)"
  | .nameTooLong => "File name too long (os error 36)"
  | .notText => "stream did not contain valid UTF-8"
  | .other reason => reason

/-- The surroundings of a command. Paths are as they are written, and one that is not written from
the root on begins in the current directory. -/
structure Host (m : Type → Type) where
  /-- The value of a variable of the environment. -/
  environment : String → m (Option String)
  currentDirectory : m Path
  pathExists : String → m Bool
  readFile : String → m (Except FileError ByteArray)
  writeFile : String → ByteArray → m (Except FileError Unit)
  /-- The whole standard input. -/
  readInput : m ByteArray
  print : Text → m Unit

/-- The text of the bytes. -/
def textOf (bytes : ByteArray) : Except FileError Text :=
  match String.fromUTF8? bytes with
  | some s => .ok s.toList
  | none => .error .notText

namespace Host

variable {m : Type → Type} [Monad m]

/-- The text of a file. -/
def readText (host : Host m) (path : String) : m (Except FileError Text) := do
  return (← host.readFile path).bind textOf

/-- A variable of the environment that is not empty. -/
def nonempty? (host : Host m) (name : String) : m (Option String) := do
  return (← host.environment name).filter (· ≠ "")

/-- The home directory. -/
def home (host : Host m) : m (Option Path) := do
  return (← host.nonempty? "HOME").map Path.ofRooted

/-- The directory of the settings of the user. -/
def settings (host : Host m) : m (Option Path) := do
  match (← host.environment "XDG_CONFIG_HOME").filter Path.isRooted with
  | some path => return some (Path.ofRooted path)
  | none => return (← host.home).map (· ++ [".config"])

end Host
end CommitStyle
