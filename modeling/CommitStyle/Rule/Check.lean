import CommitStyle.Body
import CommitStyle.Header
import CommitStyle.Options
import CommitStyle.Rule.Basic
import CommitStyle.Verdict

/-!
# Applying a rule

`Rule.offends` is the test of each rule on a message, `Rule.diagnostic` what it says. A rule looks
at the message and the options only, never at the outcome of another rule. Two rules look at the
first word of a title or subject and refuse a header in which that word is broken over lines.
-/

namespace CommitStyle.Rule

/-! ## Offences -/

/-- The message breaks the rule. -/
def offends (r : Rule) (o : Options) (m : Message) : Except Misuse Bool :=
  match r with
  | .bodyLeadingBlank => .ok m.lacksBlankBelowHeader
  | .bodyProse => .ok m.hasBadProse
  | .bodySoftMaxLineLength => .ok (m.hasOverlongLine o.bodySoftMaxLineLength)
  | .commitHashAlone => .ok (m.linksOwnCommit o.repository)
  | .emptyWip => .ok (Header.isBareWip m.header)
  | .footerLeadingBlank => .ok m.lacksBlankAboveFooter
  | .footerMaxLineLength => .ok (m.hasOverlongFooter o.footerMaxLineLength)
  | .footerNotesMisplacement => .ok m.hasMisplacedNote
  | .footerReferencesExistence => .ok m.hasUnmatchedReference
  | .headerMaxLengthWithSuggestions => .ok (Header.isTooLong o.headerMaxLength m.header)
  | .preferSlashOverBackslash => .ok (Header.hasBackslash m.header)
  | .properIssueRefs => .ok m.citesByNumber
  | .subjectFullStop => .ok (m.header.getLast? == some '.')
  | .subjectLowercase => Header.hasCapitalSubject m.header
  | .titleUppercase => Header.lacksCapital m.header
  | .tooManySpaces => .ok m.hasTooManySpaces
  | .trailingWhitespace => .ok m.hasRaggedLine
  | .typeEmpty => .ok (!Header.hasType m.header)
  | .typeSpaceAfterColon => .ok (Header.lacksColonSpace m.header)
  | .typeSpaceAfterComma => .ok (Header.hasSpacedComma m.header)
  | .typeSpaceBeforeParen => .ok (Header.hasSpacedParen m.header)
  | .typeWithSquareBrackets => .ok (Header.isBracketed m.header)

/-! ## Diagnostics -/

/-- The abbreviations whose word stands in the title of the header, in lower case. -/
def suggested (o : Options) (header : Text) : List Abbreviation :=
  o.abbreviations.filter (·.isIn (Text.lowercase (Header.title header)))

/-- A suggestion, on a line of its own. -/
def suggestionLine (a : Abbreviation) : String :=
  "\"" ++ String.ofList a.word ++ "\" -> \"" ++ a.replacement ++ "\"\n"

/-- The limit and the length of the header, with suggestions if it is too long. -/
def headerLengthText (o : Options) (header : Text) : String :=
  let text := s!"Please do not exceed {o.headerMaxLength} characters in title " ++
    s!"(found {header.length})."
  let suggestions := suggested o header
  if Header.isTooLong o.headerMaxLength header && !suggestions.isEmpty then
    text ++ " The following replacement(s) in your commit title are recommended:\n"
      ++ String.join (suggestions.map suggestionLine)
  else text

/-- The shell command that wraps the last commit message anew. -/
def rewrapCommand (width : Nat) (option : String) : String :=
  "git log --format=%B -n 1 $(git log -1 --pretty=format:\"%h\") | cat - > log.txt ; " ++
  "fmt -w 1111 -s log.txt > ulog.txt && fmt -w " ++ toString width ++ " -s " ++ option ++
  " ulog.txt > wlog.txt && git commit --amend -F wlog.txt"

/-- The limit of body lines, with the commands that wrap them. -/
def bodyLengthText (o : Options) : String :=
  let max := o.bodySoftMaxLineLength
  s!"Please do not exceed {max} characters in the lines of the commit message's body; " ++
  "we recommend this unix command (for editing the last commit message): \n" ++
  "For Linux users: " ++ rewrapCommand max "-u" ++
  "\nFor macOS users: " ++ rewrapCommand max ""

/-- What the rule says about the message. -/
def diagnostic (r : Rule) (o : Options) (m : Message) : String :=
  match r with
  | .bodyLeadingBlank => "Please leave a blank line between the title and the body."
  | .bodyProse => "Please begin a paragraph with uppercase letter and end it with a dot."
  | .bodySoftMaxLineLength => bodyLengthText o
  | .commitHashAlone => "Please use the commit hash instead of the commit full URL."
  | .emptyWip => "Please add a number or description after the WIP prefix."
  | .footerLeadingBlank => "Please leave a blank line between the body and the footer."
  | .footerMaxLineLength =>
    s!"Please do not exceed {o.footerMaxLineLength} characters in the lines of the footer."
  | .footerNotesMisplacement =>
    "Footer messages must be placed after body paragraphs, please move any message that starts " ++
    "with \"Fixes\", \"Closes\" or \"[i]\" to the end of the commmit message."
  | .footerReferencesExistence =>
    "All references in the body must be mentioned in the footer, and vice versa."
  | .headerMaxLengthWithSuggestions => headerLengthText o m.header
  | .preferSlashOverBackslash =>
    "Please use slash instead of backslash in the area/scope/sub-area section of the title."
  | .properIssueRefs => "Please use full URLs instead of #XYZ refs."
  | .subjectFullStop => "Please do not end the title with a dot."
  | .subjectLowercase =>
    "Please use lowercase as the first letter for your subject, " ++
    "i.e. the text after your area/scope."
  | .titleUppercase =>
    "Please start the title with an upper-case letter if there is no area in the title."
  | .tooManySpaces => "Please watch out for too many whitespaces in the text."
  | .trailingWhitespace => "Please watch out for leading or ending trailing whitespace."
  | .typeEmpty => "Please prefix the title with the area it touches, e.g. \"area: subject\"."
  | .typeSpaceAfterColon =>
    "Please place a space after the first colon character in your commit message title"
  | .typeSpaceAfterComma =>
    "No need to use space after comma in the area/scope (so that commit title can be shorter)."
  | .typeSpaceBeforeParen =>
    "No need to use space before parentheses in the area/scope/sub-area section of the title."
  | .typeWithSquareBrackets =>
    "Please use \"area/scope: subject\" or \"area(scope): subject\" style instead of wrapping " ++
    "area/scope under square brackets in your commit message title"

/-- The verdict of the rule on the message. -/
def check (r : Rule) (o : Options) (m : Message) : Except Misuse Verdict :=
  (r.offends o m).map fun offence => .ofOffence offence (r.diagnostic o m)

end CommitStyle.Rule
