import CommitStyle.Text.Basic

/-!
# Blank characters

`isBlank` is the Unicode property `White_Space`. `Text.trim` takes the blank characters off
both ends of a text; a text is blank when nothing is left.
-/

namespace CommitStyle

/-- The characters with the property `White_Space`. -/
def blanks : List Char :=
  [' ', '\n', '\t', '\r', '\x0b', '\x0c', '\x85', '\xa0', '\u1680', '\u2000', '\u2001', '\u2002',
   '\u2003', '\u2004', '\u2005', '\u2006', '\u2007', '\u2008', '\u2009', '\u200a', '\u2028',
   '\u2029', '\u202f', '\u205f', '\u3000']

/-- The character is white space. -/
def isBlank (c : Char) : Bool :=
  blanks.contains c

theorem isBlank_of_isWhitespace {c : Char} (h : c.isWhitespace) : isBlank c := by
  simp only [Char.isWhitespace, Bool.or_eq_true, decide_eq_true_eq] at h
  rcases h with ((rfl | rfl) | rfl) | rfl <;> decide

namespace Text

/-- The text without the blank characters at its start. -/
def trimStart (t : Text) : Text :=
  t.dropWhile isBlank

/-- The text without the blank characters at its end. -/
def trimEnd (t : Text) : Text :=
  dropEndWhile isBlank t

/-- The text without the blank characters at its ends. -/
def trim (t : Text) : Text :=
  trimEnd (trimStart t)

/-- No character but blank ones. -/
def isBlank (t : Text) : Bool :=
  t.all CommitStyle.isBlank

/-- The trimmed text, if anything is left of it. -/
def trim? (t : Text) : Option Text :=
  if trim t = [] then none else some (trim t)

end Text
end CommitStyle
