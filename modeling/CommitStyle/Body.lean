import CommitStyle.Message.Basic
import CommitStyle.Text.LetterCase
import CommitStyle.Url.Find

/-!
# Bodies and footers

What the body and the footer of a message can do wrong. Code between fences is left out of the
tests on prose, and footer notes and URLs may break the rules on lines and paragraphs.
-/

namespace CommitStyle.Message

/-! ## Prose -/

/-- The paragraph starts with a small letter and is more than a URL, or it ends neither like a
sentence nor with a URL or a footer note on its last line. -/
def paragraphOffends (p : Paragraph) : Bool :=
  let isUrlLine (l : Line) : Bool := Url.isUrl l.text
  let last := p.lines.getLast?
  let startsSmall := (p.text.head?.map isLowercase).getD false
  let isLoneUrl := p.lines.length == 1 && (last.map isUrlLine).getD false
  (startsSmall && !isLoneUrl) ||
    (!p.endsSentence && !(last.map isUrlLine).getD false &&
      !(last.map Line.isFooterNote).getD false)

/-- Some paragraph offends. -/
def hasBadProse (m : Message) : Bool :=
  (m.bodyWithoutCode.map fun body => (Text.paragraphs body).any paragraphOffends).getD false

/-- A line with more than `max` characters that is neither a URL nor a footer note. -/
def isOverlong (max : Nat) (l : Line) : Bool :=
  max < l.text.length && !Url.isUrl l.text && !l.isFooterNote

/-- Some line of the body outside code is overlong. -/
def hasOverlongLine (max : Nat) (m : Message) : Bool :=
  (m.bodyWithoutCode.map fun body =>
    (outsideFences (Text.lines body)).any (isOverlong max)).getD false

/-- A hash sign with a digit behind it. -/
def hasHashNumber : Text → Bool
  | '#' :: c :: rest => c.isDigit || hasHashNumber (c :: rest)
  | _ :: rest => hasHashNumber rest
  | [] => false

/-- A number with a hash sign in the body, outside code. -/
def citesByNumber (m : Message) : Bool :=
  (m.rawBody.map fun body => hasHashNumber body.withoutCode).getD false

/-- The part of the path of a URL that names the repository. -/
def repositorySegment (repository : Text) : Text :=
  '/' :: Text.dropEndWhile (· == '/') (repository.dropWhile (· == '/')) ++ ['/']

/-- A link to a commit of this repository. -/
def linksOwnCommit (repository : Option Text) (m : Message) : Bool :=
  (repository.map fun r => (Url.find m.raw).any fun url =>
    Url.isCommitLink url && Text.contains (repositorySegment r) url).getD false

/-! ## White space -/

/-- Two spaces behind a character other than a full stop. -/
def hasWideGap : Text → Bool
  | [] => false
  | c :: rest => (c != '.' && [' ', ' '].isPrefixOf rest) || hasWideGap rest

/-- A gap that is too wide, outside code. -/
def hasTooManySpaces (m : Message) : Bool :=
  hasWideGap m.raw.withoutCode

/-- A space or a tab. -/
def isSpaceOrTab (c : Char) : Bool :=
  c == ' ' || c == '\t'

/-- A space or a tab at either end of the line. -/
def isRagged (l : Line) : Bool :=
  (l.text.head?.map isSpaceOrTab).getD false || (l.text.getLast?.map isSpaceOrTab).getD false

/-- A space or a tab at an end of a line outside fenced blocks. -/
def hasRaggedLine (m : Message) : Bool :=
  (outsideFences (Text.lines m.raw)).any isRagged

/-- A body, and something in the line below the header. -/
def lacksBlankBelowHeader (m : Message) : Bool :=
  m.hasBody && ((Text.lines m.raw.trim)[1]?.map fun l => !l.text.isBlank).getD false

/-! ## Footer -/

/-- A line that is neither empty nor a footer note follows a footer note, where `seen` tells
whether there was one before the first line. -/
def misplacedFrom (seen : Bool) : List Line → Bool
  | [] => false
  | l :: rest =>
    if l.text = [] then misplacedFrom seen rest
    else
      let seen := seen || l.isFooterNote
      (seen && !l.isFooterNote) || misplacedFrom seen rest

/-- Some line of the body follows a footer note and is none. -/
def hasMisplacedNote (m : Message) : Bool :=
  misplacedFrom false m.bodyLines

/-- The same numbers, whatever their order. -/
def sameNumbers (a b : List Text) : Bool :=
  a.all b.contains && b.all a.contains

/-- Some number is cited and not listed, or listed and not cited. -/
def hasUnmatchedReference (m : Message) : Bool :=
  !sameNumbers (citedNumbers m.bodyLines) (listedNumbers m.bodyLines)

/-- The line before the first footer note has something in it. -/
def lacksBlankAboveFooter (m : Message) : Bool :=
  let above := m.bodyLines.takeWhile fun l => !l.isFooterNote
  !m.footerLines.isEmpty && (above.getLast?.map fun l => !l.text.isBlank).getD false

/-- A footer line with more than `max` characters. -/
def hasOverlongFooter (max : Nat) (m : Message) : Bool :=
  m.footerLines.any fun l => max < l.text.length

end CommitStyle.Message
