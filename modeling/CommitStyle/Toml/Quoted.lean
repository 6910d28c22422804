import CommitStyle.Text.CharTable
import CommitStyle.Toml.Blank

/-!
# Quoted strings

Between double quotes a backslash starts an escape, between single quotes it does not. Three quotes
open a string of several lines: a line break right behind them is dropped, every other counts as
one line feed, and one or two quotes may stand in the string, also right before the three that
close it. There a backslash at the end of a line drops everything up to the next character that is
not blank.

The readers start behind the opening quotes and give the string with what follows its closing
quotes. They walk the text once: `passed` counts the characters of an escape that are still to be
passed over.
-/

namespace CommitStyle.Toml

/-! ## Escapes -/

/-- The character whose number is written in the first `count` digits of the text. -/
def numbered? (count : Nat) (t : Text) : Option (Char × Nat) :=
  let digits := t.take count
  if digits.length = count ∧ digits.all isHexDigit then
    if (hexValue digits).isValidChar then some (Char.ofNat (hexValue digits), count + 1) else none
  else none

/-- The character of an escape behind its backslash, and the number of characters it takes there. -/
def escape? : Text → Option (Char × Nat)
  | 'b' :: _ => some ('\x08', 1)
  | 't' :: _ => some ('\t', 1)
  | 'n' :: _ => some ('\n', 1)
  | 'f' :: _ => some ('\x0c', 1)
  | 'r' :: _ => some ('\r', 1)
  | '\x22' :: _ => some ('\x22', 1)
  | '\\' :: _ => some ('\\', 1)
  | 'u' :: rest => numbered? 4 rest
  | 'U' :: rest => numbered? 8 rest
  | _ => none

/-! ## Strings of one line -/

/-- A character before a string that was read. -/
def before (c : Char) : Text × Text → Text × Text
  | (s, after) => (c :: s, after)

/-- A string between double quotes. -/
def readBasic? : (passed : Nat) → Text → Option (Text × Text)
  | _, [] => none
  | n + 1, _ :: rest => readBasic? n rest
  | 0, c :: rest =>
    if c == '\x22' then some ([], rest)
    else if c == '\\' then
      match escape? rest with
      | some (x, n) => (readBasic? n rest).map (before x)
      | none => none
    else if isPrintable c then (readBasic? 0 rest).map (before c)
    else none

/-- A string between single quotes. -/
def readLiteral? : Text → Option (Text × Text)
  | [] => none
  | c :: rest =>
    if c == '\'' then some ([], rest)
    else if isPrintable c then (readLiteral? rest).map (before c)
    else none

/-! ## Strings of several lines -/

/-- The quotes that belong to the string, before what follows its closing quotes: at most two of
those that stand right behind the first three. -/
def close (quote : Char) (t : Text) : Text × Text :=
  let extra := (t.take 2).takeWhile (· == quote)
  (extra, t.drop extra.length)

/-- The line ends behind the backslash. -/
def foldsLine (t : Text) : Bool :=
  (afterBreak? (skipSpaces t)).isSome

/-- A string between three double quotes. Behind a backslash that ends a line, `folding` holds up
to the next character that is not blank. -/
def readLongBasic? : (folding : Bool) → (passed : Nat) → Text → Option (Text × Text)
  | _, _, [] => none
  | folding, n + 1, _ :: rest => readLongBasic? folding n rest
  | folding, 0, '\r' :: '\n' :: rest =>
    if folding then readLongBasic? true 0 rest
    else (readLongBasic? false 0 rest).map (before '\n')
  | folding, 0, c :: rest =>
    if folding && (isSpace c || c == '\n') then readLongBasic? true 0 rest
    else if c == '\x22' && rest.take 2 == ['\x22', '\x22'] then some (close '\x22' (rest.drop 2))
    else if c == '\\' then
      if foldsLine rest then readLongBasic? true 0 rest
      else
        match escape? rest with
        | some (x, n) => (readLongBasic? false n rest).map (before x)
        | none => none
    else if c == '\n' || isPrintable c then (readLongBasic? false 0 rest).map (before c)
    else none

/-- A string between three single quotes. -/
def readLongLiteral? : Text → Option (Text × Text)
  | [] => none
  | '\r' :: '\n' :: rest => (readLongLiteral? rest).map (before '\n')
  | c :: rest =>
    if c == '\'' && rest.take 2 == ['\'', '\''] then some (close '\'' (rest.drop 2))
    else if c == '\n' || isPrintable c then (readLongLiteral? rest).map (before c)
    else none

/-- A string at the start of the text, and what follows it. -/
def readString? : Text → Option (Text × Text)
  | '\x22' :: '\x22' :: '\x22' :: rest => readLongBasic? false 0 (skipBreak rest)
  | '\x22' :: rest => readBasic? 0 rest
  | '\'' :: '\'' :: '\'' :: rest => readLongLiteral? (skipBreak rest)
  | '\'' :: rest => readLiteral? rest
  | _ => none

end CommitStyle.Toml
