import CommitStyle.Error
import CommitStyle.Severity

/-!
# The rules

The set of rules is closed. `Rule.all` lists them in the order of their names, which is the order
in which they are applied and reported.
-/

namespace CommitStyle

/-- A rule of style. -/
inductive Rule where
  | bodyLeadingBlank
  | bodyProse
  | bodySoftMaxLineLength
  | commitHashAlone
  | emptyWip
  | footerLeadingBlank
  | footerMaxLineLength
  | footerNotesMisplacement
  | footerReferencesExistence
  | headerMaxLengthWithSuggestions
  | preferSlashOverBackslash
  | properIssueRefs
  | subjectFullStop
  | subjectLowercase
  | titleUppercase
  | tooManySpaces
  | trailingWhitespace
  | typeEmpty
  | typeSpaceAfterColon
  | typeSpaceAfterComma
  | typeSpaceBeforeParen
  | typeWithSquareBrackets
  deriving DecidableEq, Repr

namespace Rule

/-- All rules, in the order of their names. -/
def all : List Rule :=
  [.bodyLeadingBlank, .bodyProse, .bodySoftMaxLineLength, .commitHashAlone, .emptyWip,
   .footerLeadingBlank, .footerMaxLineLength, .footerNotesMisplacement,
   .footerReferencesExistence, .headerMaxLengthWithSuggestions, .preferSlashOverBackslash,
   .properIssueRefs, .subjectFullStop, .subjectLowercase, .titleUppercase, .tooManySpaces,
   .trailingWhitespace, .typeEmpty, .typeSpaceAfterColon, .typeSpaceAfterComma,
   .typeSpaceBeforeParen, .typeWithSquareBrackets]

theorem mem_all (r : Rule) : r ∈ all := by
  cases r <;> decide

/-- The name of the rule in a configuration. -/
def name : Rule → String
  | .bodyLeadingBlank => "body-leading-blank"
  | .bodyProse => "body-prose"
  | .bodySoftMaxLineLength => "body-soft-max-line-length"
  | .commitHashAlone => "commit-hash-alone"
  | .emptyWip => "empty-wip"
  | .footerLeadingBlank => "footer-leading-blank"
  | .footerMaxLineLength => "footer-max-line-length"
  | .footerNotesMisplacement => "footer-notes-misplacement"
  | .footerReferencesExistence => "footer-references-existence"
  | .headerMaxLengthWithSuggestions => "header-max-length-with-suggestions"
  | .preferSlashOverBackslash => "prefer-slash-over-backslash"
  | .properIssueRefs => "proper-issue-refs"
  | .subjectFullStop => "subject-full-stop"
  | .subjectLowercase => "subject-lowercase"
  | .titleUppercase => "title-uppercase"
  | .tooManySpaces => "too-many-spaces"
  | .trailingWhitespace => "trailing-whitespace"
  | .typeEmpty => "type-empty"
  | .typeSpaceAfterColon => "type-space-after-colon"
  | .typeSpaceAfterComma => "type-space-after-comma"
  | .typeSpaceBeforeParen => "type-space-before-paren"
  | .typeWithSquareBrackets => "type-with-square-brackets"

/-- What the rule asks for, in one line. -/
def description : Rule → String
  | .bodyLeadingBlank => "Blank line between title and body"
  | .bodyProse => "Paragraphs start uppercase and end like sentences"
  | .bodySoftMaxLineLength => "Body lines are wrapped"
  | .commitHashAlone => "Commits of this repository are cited by hash, not URL"
  | .emptyWip => "WIP titles carry a description"
  | .footerLeadingBlank => "Blank line between body and footer"
  | .footerMaxLineLength => "Footer lines stay under the hard limit"
  | .footerNotesMisplacement => "Footer notes come after the body"
  | .footerReferencesExistence => "Every [n] reference has a footer entry and vice versa"
  | .headerMaxLengthWithSuggestions => "Title length limit, with abbreviation hints"
  | .preferSlashOverBackslash => "Area/scope uses / rather than \\"
  | .properIssueRefs => "Issues are linked by URL, not #123"
  | .subjectFullStop => "Title does not end with a dot"
  | .subjectLowercase => "Subject after the area starts lowercase"
  | .titleUppercase => "Title without area starts uppercase"
  | .tooManySpaces => "No runs of spaces inside sentences"
  | .trailingWhitespace => "No leading or trailing whitespace on lines"
  | .typeEmpty => "Title has an area"
  | .typeSpaceAfterColon => "Space after the area colon"
  | .typeSpaceAfterComma => "No space after commas in the area"
  | .typeSpaceBeforeParen => "No space before parentheses in the area"
  | .typeWithSquareBrackets => "Area is not wrapped in square brackets"

/-- The severity of the rule where the configuration gives none. -/
def defaultSeverity : Rule → Severity
  | .bodyLeadingBlank | .footerLeadingBlank | .typeEmpty => .warning
  | _ => .error

/-- The rule with this name. -/
def ofName? (name : String) : Except ConfigError Rule :=
  match all.find? fun r => r.name == name with
  | some r => .ok r
  | none => .error (.unknownRule name)

/-- The place of the rule among all rules. -/
def index (r : Rule) : Nat :=
  all.idxOf r

end Rule
end CommitStyle
