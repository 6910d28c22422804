import CommitStyle.Options
import CommitStyle.Rule.Basic

/-!
# Configurations

A configuration has a setting for every option: the length limits, an entry for each rule that is
treated otherwise than by default, abbreviations of the user, and whether terminal output has
colours. `Config.fault?` finds what makes a configuration unusable, and `Config.options` draws from
it what the rules read.
-/

namespace CommitStyle

/-- The length limits that rules share, in characters. -/
structure Limits where
  headerMaxLength : UInt64 := 50
  bodySoftMaxLineLength : UInt64 := 64
  footerMaxLineLength : UInt64 := 150
  deriving DecidableEq, Repr

/-- The limits that hold where none are given. -/
def Limits.defaults : Limits := {}

/-- What a configuration says about one rule. -/
structure RuleSetting where
  /-- The severity, if it is not the one of the rule itself. -/
  severity : Option Severity := none
  applicability : Applicability := .always
  /-- A length limit for this rule alone. -/
  maxLength : Option UInt64 := none
  deriving DecidableEq, Repr

/-- A configuration of the linter. -/
structure Config where
  /-- The owner and the name of the repository. -/
  repository : Option String := none
  limits : Limits := {}
  /-- The entries of rules by their names. -/
  rules : Table RuleSetting := ∅
  /-- The shorter spellings of words. -/
  abbreviations : Table String := ∅
  color : Bool := true
  deriving DecidableEq

instance : Inhabited Limits := ⟨{}⟩

instance : Inhabited RuleSetting := ⟨{}⟩

instance : Inhabited Config := ⟨{}⟩

namespace Config

/-! ## The settings of a rule -/

/-- The entry of the rule, or the setting without one. -/
def setting (c : Config) (r : Rule) : RuleSetting :=
  (c.rules.find? r.name).getD {}

/-- How a failure of the rule is reported. -/
def severity (c : Config) (r : Rule) : Severity :=
  (c.setting r).severity.getD r.defaultSeverity

/-- How the verdict of the rule is taken. -/
def applicability (c : Config) (r : Rule) : Applicability :=
  (c.setting r).applicability

/-- The length limit of the rule, if it has one of its own. -/
def maxLength (c : Config) (r : Rule) : Option UInt64 :=
  (c.setting r).maxLength

/-! ## Usable configurations -/

/-- The limits and the limits of single rules, with the names under which they are reported. -/
def lengths (c : Config) : List (String × UInt64) :=
  ("limits.header_max_length", c.limits.headerMaxLength) ::
  ("limits.body_soft_max_line_length", c.limits.bodySoftMaxLineLength) ::
  ("limits.footer_max_line_length", c.limits.footerMaxLineLength) ::
  c.rules.entries.filterMap fun (name, setting) => setting.maxLength.map (name, ·)

/-- The error of an entry that is no rule's. -/
def unknownRule? (name : String) : Option ConfigError :=
  match Rule.ofName? name with
  | .ok _ => none
  | .error e => some e

/-- The error of a limit that no text can keep. -/
def zeroLength? : String × UInt64 → Option ConfigError
  | (key, n) => if n = 0 then some (.invalidValue key "must be greater than zero") else none

/-- The first unknown rule, or else the first limit of zero. -/
def fault? (c : Config) : Option ConfigError :=
  (c.rules.keys.findSome? unknownRule?).or (c.lengths.findSome? zeroLength?)

/-- The configuration itself if nothing makes it unusable. -/
def validate (c : Config) : Except ConfigError Config :=
  match c.fault? with
  | none => .ok c
  | some e => .error e

/-! ## What the rules read -/

/-- The options of the rules. The limits of header and footer may be overridden in the entries of
the rules that read them, and an empty repository is none. -/
def options (c : Config) : Options where
  headerMaxLength :=
    ((c.maxLength .headerMaxLengthWithSuggestions).getD c.limits.headerMaxLength).toNat
  bodySoftMaxLineLength := c.limits.bodySoftMaxLineLength.toNat
  footerMaxLineLength :=
    ((c.maxLength .footerMaxLineLength).getD c.limits.footerMaxLineLength).toNat
  abbreviations := Abbreviation.configured c.abbreviations
  repository := (c.repository.filter (· ≠ "")).map String.toList

end Config
end CommitStyle
