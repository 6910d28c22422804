import CommitStyle.Command.Host

/-!
# Workspaces

A workspace is a tree of files in memory with everything else that a command asks for.
`Workspace.host` runs a command on it: the state of the run is the workspace, and what the command
prints is kept there. A path is followed name by name, and every name but the last must be the one
of a directory.
-/

namespace CommitStyle

/-- What is at a place. -/
inductive Entry where
  | file (content : ByteArray)
  | directory

instance : DecidableEq Entry
  | .file a, .file b =>
    match ByteArray.instDecidableEq a b with
    | .isTrue h => .isTrue (congrArg _ h)
    | .isFalse h => .isFalse fun heq => h (Entry.file.inj heq)
  | .directory, .directory => .isTrue rfl
  | .file _, .directory => .isFalse nofun
  | .directory, .file _ => .isFalse nofun

/-- The files and directories by their places. The root is a directory of every tree. -/
abbrev FileTree := List (Path × Entry)

namespace FileTree

/-- What is at the place. -/
def lookup? (t : FileTree) (p : Path) : Option Entry :=
  if p = [] then some .directory else t.lookup p

/-- The tree with this at the place. -/
def put (t : FileTree) (p : Path) (e : Entry) : FileTree :=
  (p, e) :: t.filter (·.1 ≠ p)

/-- The tree with a directory, and with those above it, where nothing is yet. -/
def addDirectory (t : FileTree) (p : Path) : FileTree :=
  p.ancestors.foldl (fun t q => if (t.lookup? q).isSome then t else t.put q .directory) t

/-- The tree with a file, and with the directories above it. -/
def addFile (t : FileTree) (p : Path) (content : ByteArray) : FileTree :=
  (t.addDirectory p.dropLast).put p (.file content)

/-- The most bytes of a name. -/
def maxNameBytes : Nat := 255

/-- The place that the names lead to from a place. Only the last of them may be missing. -/
def follow (t : FileTree) (p : Path) : List String → Except FileError Path
  | [] => .ok p
  | name :: rest =>
    match t.lookup? p with
    | none => .error .missing
    | some (.file _) => .error .notADirectory
    | some .directory =>
      if name = "" ∨ name = "." then t.follow p rest
      else if name = ".." then t.follow p.dropLast rest
      else if maxNameBytes < name.utf8ByteSize then .error .nameTooLong
      else t.follow (p ++ [name]) rest

/-- The place of a written path, seen from a directory. -/
def locate (t : FileTree) (current : Path) (written : String) : Except FileError Path :=
  if '\x00' ∈ written.toList then
    .error (.other "file name contained an unexpected NUL byte")
  else if written = "" then .error .missing
  else t.follow (if Path.isRooted written then [] else current) (Path.names written)

/-- The content of a file. -/
def read (t : FileTree) (p : Path) : Except FileError ByteArray :=
  match t.lookup? p with
  | some (.file content) => .ok content
  | some .directory => .error .isADirectory
  | none => .error .missing

/-- The tree after a file was written. -/
def write (t : FileTree) (p : Path) (content : ByteArray) : Except FileError FileTree :=
  match t.lookup? p with
  | some .directory => .error .isADirectory
  | _ => .ok (t.put p (.file content))

end FileTree

/-- The surroundings of a command in memory. -/
structure Workspace where
  files : FileTree := []
  environment : List (String × String) := []
  current : Path := []
  input : ByteArray := .empty
  /-- What was printed. -/
  printed : Text := []

namespace Workspace

/-- The operations of a command on a workspace. -/
def host : Host (StateM Workspace) where
  environment name := do return (← get).environment.lookup name
  currentDirectory := do return (← get).current
  pathExists path := do
    let w ← get
    return ((w.files.locate w.current path).toOption.bind w.files.lookup?).isSome
  readFile path := do
    let w ← get
    return (w.files.locate w.current path).bind w.files.read
  writeFile path content := do
    let w ← get
    match (w.files.locate w.current path).bind fun p => w.files.write p content with
    | .ok files => set { w with files }; return .ok ()
    | .error e => return .error e
  readInput := do return (← get).input
  print text := modify fun w => { w with printed := w.printed ++ text }

end Workspace
end CommitStyle
