import CommitStyle.Toml.Value

/-!
# TOML documents

A document is a list of lines: headers of tables and of items in lists of tables, and assignments
to the table whose header came last. `Toml.read?` gives the document as a JSON value. A document
with an error anywhere is none.
-/

namespace CommitStyle.Toml

/-- A document up to some line. -/
structure Draft where
  root : Fields
  /-- The path of the last header. -/
  current : List String

namespace Draft

/-- The empty document. -/
def empty : Draft :=
  ⟨[], []⟩

/-- The document with a header, which opens the last key of the path in the table of the others. -/
def enter (opens : String → Fields → Option Fields) (path : List String) (d : Draft) :
    Option Draft :=
  match path.getLast? with
  | some key => (d.root.below (opens key) path.dropLast).map fun root => ⟨root, path⟩
  | none => none

/-- The document with an assignment. -/
def assign (path : List String) (j : Json) (d : Draft) : Option Draft :=
  (d.root.below (Fields.assign j path) d.current).map fun root => { d with root }

end Draft

/-- The document with the line at the start of the text, and the text of the next lines. -/
def readLine? (d : Draft) (t : Text) : Option (Draft × Text) :=
  match t with
  | '[' :: '[' :: rest => do
    let (path, rest) ← readPath? rest
    match rest with
    | ']' :: ']' :: rest => return (← d.enter Fields.openItem path, ← endLine? rest)
    | _ => none
  | '[' :: rest => do
    let (path, rest) ← readPath? rest
    match rest with
    | ']' :: rest => return (← d.enter Fields.openTable path, ← endLine? rest)
    | _ => none
  | t => do
    let (path, rest) ← readPath? t
    match rest with
    | '=' :: rest =>
      let (j, rest) ← readValue? (t.length + 1) maxDepth (skipSpaces rest)
      return (← d.assign path j, ← endLine? rest)
    | _ => none

/-- The document with the lines of the text. Every line takes a character at least, so the length
of the text is enough fuel. -/
def readLines? : (fuel : Nat) → Draft → Text → Option Draft
  | 0, _, _ => none
  | fuel + 1, d, t =>
    match skipBlanks false t with
    | [] => some d
    | t => (readLine? d t).bind fun (d, rest) => readLines? fuel d rest

/-- The value of a document, which may begin with a byte order mark. -/
def read? (t : Text) : Option Json :=
  let t := if t.head? = some '\ufeff' then t.tail else t
  (readLines? (t.length + 1) .empty t).map fun d => d.root.toJson

end CommitStyle.Toml
