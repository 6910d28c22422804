import CommitStyle.Text.Basic

/-!
# Blanks, line breaks and comments

A line of a TOML text ends with a line feed or with a carriage return and a line feed. A comment
runs from the sign `#` to the end of its line. No control character but the tab stands in a
comment.
-/

namespace CommitStyle.Toml

/-- A space or a tab. -/
def isSpace (c : Char) : Bool :=
  c == ' ' || c == '\t'

/-- A tab, or a character that is no control character. -/
def isPrintable (c : Char) : Bool :=
  c == '\t' || (0x20 ≤ c.toNat && c.toNat ≠ 0x7f)

/-- The text without spaces and tabs at its start. -/
def skipSpaces (t : Text) : Text :=
  t.dropWhile isSpace

/-- What follows the line break at the start of the text. -/
def afterBreak? : Text → Option Text
  | '\n' :: rest | '\r' :: '\n' :: rest => some rest
  | _ => none

/-- The text without a line break at its start, if there is one. -/
def skipBreak (t : Text) : Text :=
  (afterBreak? t).getD t

/-- The text without a comment at its start, if there is one. -/
def skipComment : Text → Text
  | '#' :: rest => rest.dropWhile isPrintable
  | t => t

/-- The next line, if at most a comment is left of this one. -/
def endLine? (t : Text) : Option Text :=
  match skipComment (skipSpaces t) with
  | [] => some []
  | t => afterBreak? t

/-- The text without any spaces, line breaks and comments at its start. -/
def skipBlanks (inComment : Bool) : Text → Text
  | [] => []
  | '\r' :: '\n' :: rest | '\n' :: rest => skipBlanks false rest
  | c :: rest =>
    if inComment then
      if isPrintable c then skipBlanks true rest else c :: rest
    else if c == '#' then skipBlanks true rest
    else if isSpace c then skipBlanks false rest
    else c :: rest

end CommitStyle.Toml
