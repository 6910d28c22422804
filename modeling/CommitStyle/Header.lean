import CommitStyle.Message.Basic
import CommitStyle.Message.WordShape
import CommitStyle.Text.WordChar

/-!
# Headers

What a header can do wrong, as tests on its text. The area of a header is the part before its
first colon, the subject what follows. The two tests on the first word of a title or subject refuse
a header in which that word is broken over lines.
-/

namespace CommitStyle.Header

/-! ## Parts of a header -/

/-- The part before the first colon. -/
def area? (h : Text) : Option Text :=
  if ':' ∈ h then some (h.takeWhile (· ≠ ':')) else none

/-- The part after the first colon, unless the header starts with it. -/
def afterArea? (h : Text) : Option Text :=
  match h.takeWhile (· ≠ ':'), h.dropWhile (· ≠ ':') with
  | _ :: _, _ :: rest => some rest
  | _, _ => none

/-- The part from the first colon on; a header without a colon as a whole. -/
def title (h : Text) : Text :=
  match h.dropWhile (· ≠ ':') with
  | [] => h
  | rest => rest

/-! ## Length -/

/-- The start of the header that a merge gets by itself. -/
def mergeStart : Text := ['M', 'e', 'r', 'g', 'e', ' ']

/-- More characters than `max`. A merge header may be as long as it likes. -/
def isTooLong (max : Nat) (h : Text) : Bool :=
  !mergeStart.isPrefixOf h && max < h.length

/-! ## Area -/

/-- A part of the header before its first colon has the pattern in it. -/
def areaContains (pattern : Text) (h : Text) : Bool :=
  ((area? h).map (Text.contains pattern)).getD false

/-- A backslash in the area. -/
def hasBackslash (h : Text) : Bool :=
  areaContains ['\\'] h

/-- A comma with a space behind it in the area. -/
def hasSpacedComma (h : Text) : Bool :=
  areaContains [',', ' '] h

/-- An opening parenthesis with a space before it in the area. -/
def hasSpacedParen (h : Text) : Bool :=
  areaContains [' ', '('] h

/-- Something other than a space behind the first colon. -/
def lacksColonSpace (h : Text) : Bool :=
  match afterArea? h with
  | some (c :: _) => c ≠ ' '
  | _ => false

/-- An opening bracket at the start that is closed on the same line. -/
def isBracketed : Text → Bool
  | '[' :: rest => (rest.takeWhile (· ≠ '\n')).contains ']'
  | _ => false

/-! ## Type -/

/-- A colon and a space, with or without an exclamation mark before them. -/
def startsSubject (t : Text) : Bool :=
  [':', ' '].isPrefixOf t || ['!', ':', ' '].isPrefixOf t

/-- A closing parenthesis on this line, with the start of the subject right behind it. -/
def closesScope : Text → Bool
  | [] => false
  | c :: rest => (c == ')' && startsSubject rest) || (c != '\n' && closesScope rest)

/-- A word, then a scope in parentheses if there is one, then the start of the subject. -/
def hasType (h : Text) : Bool :=
  let rest := h.dropWhile isWordChar
  h.takeWhile isWordChar ≠ [] &&
    (startsSubject rest || (rest.head? == some '(' && closesScope rest.tail))

/-! ## Words -/

/-- The three letters of work in progress, in any case, and nothing else. -/
def isBareWip (h : Text) : Bool :=
  Text.lowercase h == ['w', 'i', 'p']

/-- A header without a colon whose first word has no capital and is no proper noun. -/
def lacksCapital (h : Text) : Except Misuse Bool :=
  if ':' ∈ h then .ok false
  else (Word.ofText? (Text.firstWord h)).map fun w => !w.startsSentence && !w.isProperNoun

/-- A subject of more than one character whose first word is capitalised. -/
def hasCapitalSubject (h : Text) : Except Misuse Bool :=
  match afterArea? h with
  | none => .ok false
  | some rest =>
    if 1 < rest.trim.length then
      (Word.ofText? (Text.firstWord rest.trim)).map Word.startsSentence
    else .ok false

end CommitStyle.Header
