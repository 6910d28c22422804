import CommitStyle.Message.Fence
import CommitStyle.Text.Blank
import CommitStyle.Url.Basic

/-!
# Paragraphs

Paragraphs are separated by empty lines. `Text.paragraphs` trims them and leaves out those of blank
characters alone. `Text.endsSentence` is the test on the end of a paragraph.
-/

namespace CommitStyle

/-- A block of text between empty lines. -/
structure Paragraph where
  text : Text
  deriving Repr, DecidableEq

namespace Text

/-- What follows two line breaks at the start of the text. -/
def afterBlankLine? : Text → Option Text
  | '\r' :: '\n' :: '\r' :: '\n' :: rest => some rest
  | '\r' :: '\n' :: '\n' :: rest => some rest
  | '\n' :: '\r' :: '\n' :: rest => some rest
  | '\n' :: '\n' :: rest => some rest
  | _ => none

theorem length_lt_of_afterBlankLine? {t after : Text} (h : afterBlankLine? t = some after) :
    after.length < t.length := by
  fun_cases afterBlankLine? t <;> simp_all [afterBlankLine?] <;> omega

/-- The parts of the text between two line breaks in a row. -/
def blocks (t : Text) : List Text :=
  match t with
  | [] => [[]]
  | c :: rest =>
    match _h : afterBlankLine? (c :: rest) with
    | some after => [] :: blocks after
    | none => (blocks rest).modifyHead (c :: ·)
termination_by t.length
decreasing_by
  · exact length_lt_of_afterBlankLine? _h
  · simp

/-- The paragraphs of the text, in order. -/
def paragraphs (t : Text) : List Paragraph :=
  ((blocks t).filterMap trim?).map Paragraph.mk

/-- The character ends a sentence, or announces what follows. -/
def isEnd (c : Char) : Bool :=
  ['.', ':', '!', '?'].contains c

/-- The text ends like a sentence: with a URL, with a mark that ends a sentence, or with a closing
parenthesis behind a character that passes the same test. -/
def endsSentence (t : Text) : Bool :=
  Url.isUrl (lastWord t) ||
    match _h : t.reverse with
    | [] => false
    | ')' :: before :: _ => endsSentence [before]
    | last :: _ => isEnd last
termination_by t.length
decreasing_by
  have := congrArg List.length _h
  simp at this
  simp only [List.length_singleton]
  omega

end Text

namespace Paragraph

/-- The lines of the paragraph. -/
def lines (p : Paragraph) : List Line :=
  Text.lines p.text

/-- The paragraph ends like a sentence. -/
def endsSentence (p : Paragraph) : Bool :=
  Text.endsSentence p.text

end Paragraph
end CommitStyle
