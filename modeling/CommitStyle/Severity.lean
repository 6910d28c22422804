import CommitStyle.Text.LetterCase

/-!
# Severity and applicability

A rule is reported as an error or a warning, or not at all. Its verdict is taken as it is or turned
round.
-/

namespace CommitStyle

/-- How a failing rule is reported. -/
inductive Severity where
  | disabled | warning | error
  deriving DecidableEq, Repr, Inhabited

namespace Severity

/-- The name of the severity. -/
def name : Severity → String
  | .disabled => "disabled"
  | .warning => "warning"
  | .error => "error"

/-- The severity with this level. -/
def ofLevel? : Int → Option Severity
  | 0 => some .disabled
  | 1 => some .warning
  | 2 => some .error
  | _ => none

/-- The severity with this name or short name, in any case of letters. -/
def ofName? (name : String) : Option Severity :=
  match lowercaseString name with
  | "disabled" | "off" => some .disabled
  | "warning" | "warn" => some .warning
  | "error" => some .error
  | _ => none

end Severity

/-- Whether the verdict of a rule is taken as it is or turned round. -/
inductive Applicability where
  | always | never
  deriving DecidableEq, Repr, Inhabited

namespace Applicability

/-- The name of the applicability. -/
def name : Applicability → String
  | .always => "always"
  | .never => "never"

/-- The applicability with exactly this name. -/
def ofName? : String → Option Applicability
  | "always" => some .always
  | "never" => some .never
  | _ => none

end Applicability
end CommitStyle
