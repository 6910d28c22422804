import CommitStyle.Text.LetterCase
import CommitStyle.Text.Line

/-!
# Shapes of words

The rules on upper and lower case look at one word. A plain capitalised word starts a sentence. A
word with an unexpected capital or with anything but ASCII letters counts as a proper noun, so that
identifiers and brand names are left alone.
-/

namespace CommitStyle.Word

/-- The number of capital ASCII letters. -/
def capitals (w : Word) : Nat :=
  w.text.countP Char.isUpper

/-- The number of characters that are no ASCII letters. -/
def nonLetters (w : Word) : Nat :=
  w.text.countP fun c => !c.isAlpha

/-- A word that may keep its spelling: it has a character that is no ASCII letter, or a capital in
an unexpected place. -/
def isProperNoun (w : Word) : Bool :=
  match w.text.head? with
  | none => false
  | some first =>
    0 < w.nonLetters || (isUppercase first && 1 < w.capitals) ||
      (isLowercase first && 0 < w.capitals)

/-- A capital letter and small ones, all of ASCII. -/
def startsSentence (w : Word) : Bool :=
  match w.text.head? with
  | none => false
  | some first => isUppercase first && w.capitals == 1 && w.nonLetters == 0

end CommitStyle.Word
