import CommitStyle.Toml.Key
import CommitStyle.Toml.Moment
import CommitStyle.Toml.Node
import CommitStyle.Toml.Number

/-!
# Values

A value is a string, a word without quotes (a truth value, a number or a moment), an array, or a
table between braces. Arrays may run over several lines and hold comments, a table between braces
stays on its line. Both nest less than `maxDepth` deep.
-/

namespace CommitStyle.Toml

/-- Arrays and tables between braces nest less than this deep. -/
def maxDepth : Nat := 80

/-! ## Words -/

/-- A character of a word without quotes. -/
def isWordChar (c : Char) : Bool :=
  c.isAlphanum || c == '_' || c == '+' || c == '-' || c == '.' || c == ':'

/-- The value of a word. -/
def wordValue? (t : Text) : Option Json :=
  if t = ['t', 'r', 'u', 'e'] then some (.bool true)
  else if t = ['f', 'a', 'l', 's', 'e'] then some (.bool false)
  else match moment? t with
    | some m => some (momentValue m)
    | none =>
      match integer? t with
      | some n => some (.number (.integer n))
      | none => (real? t).map fun r => .number (.real r)

/-- The word at the start of the text, and what follows it. A date goes on behind one space if a
time follows there. -/
def word (t : Text) : Text × Text :=
  let first := t.takeWhile isWordChar
  let rest := t.dropWhile isWordChar
  match rest with
  | ' ' :: c :: _ =>
    if isWordChar c ∧ afterDate? first = some [] then
      (first ++ ' ' :: rest.tail.takeWhile isWordChar, rest.tail.dropWhile isWordChar)
    else (first, rest)
  | _ => (first, rest)

/-! ## Values -/

mutual

/-- The value at the start of the text, and what follows it. Every step takes a character at least,
so the length of the text is enough fuel. -/
def readValue? : (fuel depth : Nat) → Text → Option (Json × Text)
  | 0, _, _ => none
  | fuel + 1, depth, t =>
    match t with
    | '\x22' :: _ | '\'' :: _ =>
      (readString? t).map fun (s, after) => (.string (String.ofList s), after)
    | '[' :: rest =>
      if depth ≤ 1 then none
      else (readItems? fuel (depth - 1) rest).map fun (items, after) => (.array items, after)
    | '\x7b' :: rest =>
      if depth ≤ 1 then none
      else match skipSpaces rest with
        | '\x7d' :: after => some (.object [], after)
        | rest => (readPairs? fuel (depth - 1) [] rest).map fun (fs, after) => (fs.toJson, after)
    | _ => (wordValue? (word t).1).map (·, (word t).2)

/-- The items up to the closing bracket, and what follows it. -/
def readItems? : (fuel depth : Nat) → Text → Option (List Json × Text)
  | 0, _, _ => none
  | fuel + 1, depth, t =>
    match skipBlanks false t with
    | ']' :: after => some ([], after)
    | t =>
      (readValue? fuel depth t).bind fun (item, rest) =>
        match skipBlanks false rest with
        | ',' :: rest =>
          (readItems? fuel depth rest).map fun (items, after) => (item :: items, after)
        | ']' :: after => some ([item], after)
        | _ => none

/-- The entries up to the closing brace, added to those before, and what follows it. -/
def readPairs? : (fuel depth : Nat) → Fields → Text → Option (Fields × Text)
  | 0, _, _, _ => none
  | fuel + 1, depth, fs, t =>
    (readPath? t).bind fun (path, rest) =>
      match rest with
      | '=' :: rest =>
        (readValue? fuel depth (skipSpaces rest)).bind fun (j, rest) =>
          (fs.assign j path).bind fun fs =>
            match skipSpaces rest with
            | ',' :: rest => readPairs? fuel depth fs rest
            | '\x7d' :: after => some (fs, after)
            | _ => none
      | _ => none

end

end CommitStyle.Toml
