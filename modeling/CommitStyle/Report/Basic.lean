import CommitStyle.Json.Basic
import CommitStyle.Rule.Basic

/-!
# Reports

The outcome of all rules on one message. A rule that failed is an `Issue`; a report keeps the issues
that are errors and those that are warnings, each in the order in which they were recorded. A
message is valid if there is no error.
-/

namespace CommitStyle

/-- A rule that failed. -/
structure Issue where
  rule : Rule
  /-- The diagnostic with the guidelines. -/
  message : String
  severity : Severity
  deriving DecidableEq, Repr

/-- The outcome of linting one message. -/
structure Report where
  header : Text
  /-- The commit of the message, if it is known. -/
  commit : Option Text := none
  errors : List Issue := []
  warnings : List Issue := []
  deriving DecidableEq, Repr

namespace Issue

/-- The issue makes the message invalid. -/
def isError (i : Issue) : Bool :=
  i.severity == .error

/-- The issue as an object. -/
def toJson (i : Issue) : Json :=
  Json.ofFields [
    ("rule", .string i.rule.name),
    ("severity", .string i.severity.name),
    ("message", .string i.message)]

end Issue

namespace Report

/-- The report with one issue more. An issue of a disabled rule is not recorded. -/
def push (r : Report) (i : Issue) : Report :=
  match i.severity with
  | .error => { r with errors := r.errors ++ [i] }
  | .warning => { r with warnings := r.warnings ++ [i] }
  | .disabled => r

/-- The report of a message with this header and these issues. -/
def ofIssues (header : Text) (issues : List Issue) : Report :=
  issues.foldl push { header }

/-- The message is valid. -/
def isValid (r : Report) : Bool :=
  r.errors.isEmpty

/-- All issues, errors first. -/
def issues (r : Report) : List Issue :=
  r.errors ++ r.warnings

/-- The report as an object. -/
def toJson (r : Report) : Json :=
  Json.ofFields [
    ("valid", .bool r.isValid),
    ("commit", (r.commit.map fun c => Json.string (String.ofList c)).getD .null),
    ("header", .string (String.ofList r.header)),
    ("errors", .array (r.errors.map Issue.toJson)),
    ("warnings", .array (r.warnings.map Issue.toJson))]

end Report
end CommitStyle
