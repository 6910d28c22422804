import CommitStyle.Toml.Quoted

/-!
# Keys

A key is bare or quoted. Keys with dots between them are a path into the tables of the document.
-/

namespace CommitStyle.Toml

/-- A path of at least this many keys is refused. -/
def maxPathLength : Nat := 80

/-- A character of a bare key. -/
def isBareKeyChar (c : Char) : Bool :=
  c.isAlphanum || c == '-' || c == '_'

/-- A key at the start of the text, and what follows it. -/
def readKey? : Text → Option (String × Text)
  | '\x22' :: rest => (readBasic? 0 rest).map fun (key, after) => (String.ofList key, after)
  | '\'' :: rest => (readLiteral? rest).map fun (key, after) => (String.ofList key, after)
  | t =>
    let key := t.takeWhile isBareKeyChar
    if key = [] then none else some (String.ofList key, t.dropWhile isBareKeyChar)

/-- The keys of a path and what follows them, with the spaces around each key. A path of more than
`most` keys is none. -/
def readKeys? : (most : Nat) → Text → Option (List String × Text)
  | 0, _ => none
  | most + 1, t =>
    (readKey? (skipSpaces t)).bind fun (key, rest) =>
      match skipSpaces rest with
      | '.' :: rest => (readKeys? most rest).map fun (keys, after) => (key :: keys, after)
      | after => some ([key], after)

/-- The path at the start of the text. -/
def readPath? (t : Text) : Option (List String × Text) :=
  readKeys? (maxPathLength - 1) t

end CommitStyle.Toml
