import CommitStyle.Linter

/-!
# Rules with their guards

`Rule.offends` hands lines and words to the classifiers, whose types rule out a text with a line
feed or a space, and cuts a header by walking over its characters. A rule that works on texts and
on byte offsets has to check instead. `Rule.guardedCheck` is every rule in that form : each
classifier refuses a text that is no line or no word (`Line.guarded`, `Word.guarded`), and each cut
refuses an offset that is out of range or inside a character (`Text.splitAtByte`). A guard is asked
only where the rule comes to it, so a loop that stops early asks no further.
-/

namespace CommitStyle

/-! ## Guards -/

/-- `f` of a text that was promised to be a line. -/
def Line.guarded {α : Type} (f : Line → α) (t : Text) : Except Misuse α :=
  (Line.ofText? t).map f

/-- `f` of a text that was promised to be a word. -/
def Word.guarded {α : Type} (f : Word → α) (t : Text) : Except Misuse α :=
  (Word.ofText? t).map f

namespace Text

/-- The parts of the text before and from the byte `n`, unless it is beyond the end or inside a
character. -/
def splitAtByte (n : Nat) (t : Text) : Except Misuse (Text × Text) :=
  if byteLength (takeBytes n t) = n then
    .ok (takeBytes n t, t.drop (takeBytes n t).length)
  else .error (.splitCharacter n t)

/-- The byte at which the first `c` starts. -/
def byteIndex? (c : Char) (t : Text) : Option Nat :=
  if c ∈ t then some (byteLength (t.takeWhile (· ≠ c))) else none

/-- The bytes at which the characters `c` start, where `start` bytes stand before the text. -/
def byteIndices (c : Char) (start : Nat) : Text → List Nat
  | [] => []
  | d :: rest =>
    if d = c then start :: byteIndices c (start + d.utf8Size) rest
    else byteIndices c (start + d.utf8Size) rest

/-- The lines of the text, each as a text. -/
def splitLines (t : Text) : List Text :=
  (pieces '\n' t).map dropReturn

end Text

/-! ## Headers -/

namespace Header

/-- The byte of the first colon, unless the header starts with it. -/
def areaColon? (h : Text) : Option Nat :=
  (h.byteIndex? ':').filter (0 < ·)

/-- The part before the first colon, cut off by its byte. -/
def guardedArea? (h : Text) : Except Misuse (Option Text) :=
  match h.byteIndex? ':' with
  | none => .ok none
  | some n => (h.splitAtByte n).map fun cut => some cut.1

/-- The part behind the first colon, cut off by its byte. -/
def guardedAfterArea? (h : Text) : Except Misuse (Option Text) :=
  match areaColon? h with
  | none => .ok none
  | some n => (h.splitAtByte (n + 1)).map fun cut => some cut.2

/-- The part from the first colon on, cut off by its byte. -/
def guardedTitle (h : Text) : Except Misuse Text :=
  match areaColon? h with
  | none => .ok h
  | some n => (h.splitAtByte n).map Prod.snd

/-- A comma in the area with a space behind it, looked for byte by byte. -/
def guardedSpacedComma (h : Text) : Except Misuse Bool := do
  match ← guardedArea? h with
  | none => return false
  | some area => (area.byteIndices ',' 0).anyM fun n =>
      (area.splitAtByte (n + 1)).map fun cut => cut.2.head? == some ' '

/-- An opening parenthesis in the area with a space before it, looked for byte by byte. -/
def guardedSpacedParen (h : Text) : Except Misuse Bool := do
  match ← guardedArea? h with
  | none => return false
  | some area => (area.byteIndices '(' 0).anyM fun n =>
      (area.splitAtByte n).map fun cut => cut.1.getLast? == some ' '

/-- A header without a colon whose first word has no capital and is no proper noun. -/
def guardedLacksCapital (h : Text) : Except Misuse Bool := do
  if ':' ∈ h then return false
  if ← Word.guarded Word.startsSentence (Text.firstWord h) then return false
  return !(← Word.guarded Word.isProperNoun (Text.firstWord h))

/-- A subject of more than one character whose first word is capitalised. -/
def guardedCapitalSubject (h : Text) : Except Misuse Bool := do
  match ← guardedAfterArea? h with
  | none => return false
  | some rest =>
    if 1 < rest.trim.length then Word.guarded Word.startsSentence (Text.firstWord rest.trim)
    else return false

end Header

/-! ## Bodies and footers -/

/-- The lines of the text outside fenced blocks, walked through until `p` holds of one. -/
def anyOutsideFences (p : Text → Except Misuse Bool) (inside : Bool) :
    List Text → Except Misuse Bool
  | [] => return false
  | l :: rest => do
    if ← Line.guarded Line.isFence l then anyOutsideFences p (!inside) rest
    else if inside then anyOutsideFences p inside rest
    else if ← p l then return true
    else anyOutsideFences p inside rest

/-- The place of the first footer note. -/
def footerStart? : List Text → Except Misuse (Option Nat)
  | [] => return none
  | l :: rest => do
    if ← Line.guarded Line.isFooterNote l then return some 0
    return (← footerStart? rest).map (· + 1)

/-- A line that is neither empty nor a footer note follows a footer note. -/
def guardedMisplaced (seen : Bool) : List Text → Except Misuse Bool
  | [] => return false
  | l :: rest => do
    if l = [] then guardedMisplaced seen rest
    else
      let note ← Line.guarded Line.isFooterNote l
      if (seen || note) && !note then return true
      guardedMisplaced (seen || note) rest

/-- The numbers cited and the numbers listed in the lines. -/
def guardedReferences : List Text → Except Misuse (List Text × List Text)
  | [] => return ([], [])
  | l :: rest => do
    let reference ← Line.guarded Line.isReference l
    let (cited, listed) ← guardedReferences rest
    return if reference then (cited, bracketedNumbers l ++ listed)
      else (bracketedNumbers l ++ cited, listed)

/-- The line has more than `max` characters and is neither a URL nor a footer note. -/
def guardedOverlong (max : Nat) (l : Text) : Except Misuse Bool :=
  if max < l.length && !Url.isUrl l then (Line.guarded Line.isFooterNote l).map (!·)
  else .ok false

/-- The line has a space or a tab at an end. -/
def guardedRagged (l : Text) : Except Misuse Bool :=
  .ok ((l.head?.map Message.isSpaceOrTab).getD false ||
    (l.getLast?.map Message.isSpaceOrTab).getD false)

/-- The paragraph starts or ends unlike a sentence, and its lines do not excuse it. -/
def Paragraph.guardedOffends (p : Paragraph) : Except Misuse Bool :=
  let last := p.text.splitLines.getLast?.getD []
  let startsSmall := (p.text.head?.map isLowercase).getD false
  let isLoneUrl := p.text.splitLines.length == 1 && Url.isUrl last
  if startsSmall && !isLoneUrl then .ok true
  else if p.endsSentence || Url.isUrl last then .ok false
  else (Line.guarded Line.isFooterNote last).map (!·)

namespace Message

/-- Everything from the first line break of the trimmed text on, cut off by its byte. -/
def guardedRawBody (m : Message) : Except Misuse (Option Text) :=
  match m.raw.trim.byteIndex? '\n' with
  | none => .ok none
  | some n => (m.raw.trim.splitAtByte n).map fun cut => some cut.2

/-- The trimmed body. -/
def guardedBody (m : Message) : Except Misuse (Option Text) :=
  m.guardedRawBody.map (·.bind Text.trim?)

/-- The trimmed body without code. -/
def guardedBodyWithoutCode (m : Message) : Except Misuse (Option Text) :=
  m.guardedRawBody.map (·.bind fun body => body.withoutCode.trim?)

/-- The lines of the trimmed body. -/
def guardedBodyLines (m : Message) : Except Misuse (List Text) :=
  m.guardedBody.map fun body => (body.map Text.splitLines).getD []

end Message

/-! ## Applying a rule -/

namespace Rule

/-- The message breaks the rule. -/
def guardedOffends (r : Rule) (o : Options) (m : Message) : Except Misuse Bool := do
  match r with
  | .bodyLeadingBlank =>
    return (← m.guardedBody).isSome &&
      ((m.raw.trim.splitLines)[1]?.map fun l => !l.isBlank).getD false
  | .bodyProse =>
    match ← m.guardedBodyWithoutCode with
    | none => return false
    | some body => (Text.paragraphs body).anyM Paragraph.guardedOffends
  | .bodySoftMaxLineLength =>
    match ← m.guardedBodyWithoutCode with
    | none => return false
    | some body =>
      anyOutsideFences (guardedOverlong o.bodySoftMaxLineLength) false body.splitLines
  | .footerLeadingBlank =>
    let lines ← m.guardedBodyLines
    match ← footerStart? lines with
    | some (n + 1) => return (lines[n]?.map fun l => !l.isBlank).getD false
    | _ => return false
  | .footerMaxLineLength =>
    let lines ← m.guardedBodyLines
    match ← footerStart? lines with
    | some n => return (lines.drop n).any fun l => o.footerMaxLineLength < l.length
    | none => return false
  | .footerNotesMisplacement => guardedMisplaced false (← m.guardedBodyLines)
  | .footerReferencesExistence =>
    let (cited, listed) ← guardedReferences (← m.guardedBodyLines)
    return !Message.sameNumbers cited listed
  | .preferSlashOverBackslash =>
    return ((← Header.guardedArea? m.header).map (Text.contains ['\\'])).getD false
  | .properIssueRefs =>
    return ((← m.guardedRawBody).map fun body => Message.hasHashNumber body.withoutCode).getD false
  | .subjectLowercase => Header.guardedCapitalSubject m.header
  | .titleUppercase => Header.guardedLacksCapital m.header
  | .trailingWhitespace => anyOutsideFences guardedRagged false m.raw.splitLines
  | .typeSpaceAfterColon =>
    match ← Header.guardedAfterArea? m.header with
    | some (c :: _) => return c ≠ ' '
    | _ => return false
  | .typeSpaceAfterComma => Header.guardedSpacedComma m.header
  | .typeSpaceBeforeParen => Header.guardedSpacedParen m.header
  -- These look neither at lines nor at offsets.
  | .commitHashAlone | .emptyWip | .headerMaxLengthWithSuggestions | .subjectFullStop
  | .tooManySpaces | .typeEmpty | .typeWithSquareBrackets => r.offends o m

/-- The limit and the length of the header, with these suggestions. -/
def lengthTextWith (o : Options) (header : Text) (suggestions : List Abbreviation) : String :=
  let text := s!"Please do not exceed {o.headerMaxLength} characters in title " ++
    s!"(found {header.length})."
  if suggestions.isEmpty then text
  else text ++ " The following replacement(s) in your commit title are recommended:\n"
    ++ String.join (suggestions.map suggestionLine)

/-- The limit and the length of the header. Suggestions on a long one come from its title. -/
def guardedLengthText (o : Options) (header : Text) : Except Misuse String :=
  if Header.isTooLong o.headerMaxLength header then
    (Header.guardedTitle header).map fun title =>
      lengthTextWith o header (o.abbreviations.filter (·.isIn (Text.lowercase title)))
  else .ok (lengthTextWith o header [])

/-- What the rule says about the message. -/
def guardedDiagnostic (r : Rule) (o : Options) (m : Message) : Except Misuse String :=
  match r with
  | .headerMaxLengthWithSuggestions => guardedLengthText o m.header
  | _ => .ok (r.diagnostic o m)

/-- The verdict of the rule on the message. -/
def guardedCheck (r : Rule) (o : Options) (m : Message) : Except Misuse Verdict := do
  let offence ← r.guardedOffends o m
  return .ofOffence offence (← r.guardedDiagnostic o m)

end Rule

/-- The verdict of the rule on the message, as the configuration wants it. -/
def Config.guardedEvaluate (c : Config) (r : Rule) (m : Message) : Except Misuse Verdict :=
  (r.guardedCheck c.options m).map fun v =>
    match c.applicability r with
    | .always => v
    | .never => v.inverted

end CommitStyle
