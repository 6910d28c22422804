import CommitStyle.Json.Basic
import CommitStyle.Text.Basic

/-!
# Writing JSON

`Json.compact` writes a value without any space, `Json.pretty` with a line for every item, indented
by two spaces a level. Only the quote, the backslash and control characters are escaped.
-/

namespace CommitStyle.Json

/-! ## Strings and numbers -/

/-- A hexadecimal digit. -/
def hexDigit (n : Nat) : Char :=
  Nat.digitChar (n % 16)

/-- The character as it stands in a string. -/
def escape (c : Char) : Text :=
  match c with
  | '\x22' => ['\\', '\x22']
  | '\\' => ['\\', '\\']
  | '\x08' => ['\\', 'b']
  | '\x0c' => ['\\', 'f']
  | '\n' => ['\\', 'n']
  | '\r' => ['\\', 'r']
  | '\t' => ['\\', 't']
  | c =>
    if c.toNat < 0x20 then
      ['\\', 'u', '0', '0', hexDigit (c.toNat / 16), hexDigit c.toNat]
    else [c]

/-- The string between quotes. -/
def writeString (s : String) : Text :=
  '\x22' :: s.toList.flatMap escape ++ ['\x22']

/-- The number in decimal digits, or as it was written. -/
def Number.write : Number → Text
  | .integer n => (toString n).toList
  | .real written => written

/-! ## Values -/

/-- How items are set apart. -/
inductive Layout where
  | compact | pretty
  deriving DecidableEq, Repr

/-- A new line at the depth `depth`, if the layout has lines. -/
def Layout.break (layout : Layout) (depth : Nat) : Text :=
  match layout with
  | .compact => []
  | .pretty => '\n' :: List.replicate (2 * depth) ' '

/-- What stands between the name of a field and its value. -/
def Layout.colon : Layout → Text
  | .compact => [':']
  | .pretty => [':', ' ']

mutual

/-- The value at the depth `depth`. -/
def writeAt (layout : Layout) (depth : Nat) : Json → Text
  | .null => ['n', 'u', 'l', 'l']
  | .bool true => ['t', 'r', 'u', 'e']
  | .bool false => ['f', 'a', 'l', 's', 'e']
  | .number n => n.write
  | .string s => writeString s
  | .array [] => ['[', ']']
  | .array (item :: rest) =>
    '[' :: (layout.break (depth + 1) ++ writeAt layout (depth + 1) item ++
      writeItems layout (depth + 1) rest ++ layout.break depth ++ [']'])
  | .object [] => ['\x7b', '\x7d']
  | .object ((name, value) :: rest) =>
    '\x7b' :: (layout.break (depth + 1) ++ writeString name ++ layout.colon ++
      writeAt layout (depth + 1) value ++ writeFields layout (depth + 1) rest ++
      layout.break depth ++ ['\x7d'])

/-- The items of an array after the first. -/
def writeItems (layout : Layout) (depth : Nat) : List Json → Text
  | [] => []
  | item :: rest =>
    ',' :: (layout.break depth ++ writeAt layout depth item ++ writeItems layout depth rest)

/-- The fields of an object after the first. -/
def writeFields (layout : Layout) (depth : Nat) : List (String × Json) → Text
  | [] => []
  | (name, value) :: rest =>
    ',' :: (layout.break depth ++ writeString name ++ layout.colon ++ writeAt layout depth value ++
      writeFields layout depth rest)

end

/-- The value without any space. -/
def compact (j : Json) : Text :=
  writeAt .compact 0 j

/-- The value with a line for every item. -/
def pretty (j : Json) : Text :=
  writeAt .pretty 0 j

end CommitStyle.Json
