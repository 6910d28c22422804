import CommitStyle.Text.Line

/-!
# Footer notes

A footer note is a line of the footer with a fixed start: a numbered reference (`[1] …`), a
sentence that closes an issue, or the tag of a second author.
-/

namespace CommitStyle

namespace Line

/-- The start of the tag of a second author. -/
def coAuthorStart : Text :=
  ['C', 'o', '-', 'a', 'u', 't', 'h', 'o', 'r', 'e', 'd', '-', 'b', 'y', ':', ' ']

/-- A reference in the footer: a bracket that closes before a space. -/
def isReference (l : Line) : Bool :=
  l.text.head? == some '[' && Text.contains [']', ' '] l.text

/-- A sentence that says which issue the commit fixes or closes. -/
def isClosing (l : Line) : Bool :=
  ['F', 'i', 'x', 'e', 's', ' '].isPrefixOf l.text ||
    ['C', 'l', 'o', 's', 'e', 's', ' '].isPrefixOf l.text

/-- The tag of a second author. -/
def isCoAuthor (l : Line) : Bool :=
  coAuthorStart.isPrefixOf l.text

/-- A footer note of any kind. -/
def isFooterNote (l : Line) : Bool :=
  l.isReference || l.isCoAuthor || l.isClosing

end Line

/-! ## References -/

/-- The numbers that stand between square brackets in the text, as they are written. -/
def bracketedNumbers : Text → List Text
  | [] => []
  | c :: rest =>
    let digits := rest.takeWhile Char.isDigit
    if c = '[' ∧ digits ≠ [] ∧ (rest.dropWhile Char.isDigit).head? = some ']' then
      digits :: bracketedNumbers rest
    else bracketedNumbers rest

/-- The numbers cited in the lines that are no references. -/
def citedNumbers (ls : List Line) : List Text :=
  (ls.filter fun l => !l.isReference).flatMap fun l => bracketedNumbers l.text

/-- The numbers listed in the lines that are references. -/
def listedNumbers (ls : List Line) : List Text :=
  (ls.filter Line.isReference).flatMap fun l => bracketedNumbers l.text

end CommitStyle
