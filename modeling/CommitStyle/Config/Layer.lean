import CommitStyle.Config.Basic

/-!
# Layers of settings

A document says something about some settings and nothing about others. `Config.Layer` holds exactly
what a document says, and `Layer.toConfig` fills the rest with the defaults.
-/

namespace CommitStyle.Config

/-- The limits that a document gives. -/
structure LimitsLayer where
  headerMaxLength : Option UInt64 := none
  bodySoftMaxLineLength : Option UInt64 := none
  footerMaxLineLength : Option UInt64 := none
  deriving DecidableEq, Repr

/-- What a document says about a rule. -/
structure RuleLayer where
  severity : Option Severity := none
  applicability : Option Applicability := none
  maxLength : Option UInt64 := none
  deriving DecidableEq, Repr

/-- What a document says. -/
structure Layer where
  repository : Option String := none
  limits : LimitsLayer := {}
  rules : Table RuleLayer := ∅
  abbreviations : Table String := ∅
  color : Option Bool := none
  deriving DecidableEq

/-- The given limits, and the defaults for the others. -/
def LimitsLayer.toLimits (l : LimitsLayer) : Limits where
  headerMaxLength := l.headerMaxLength.getD Limits.defaults.headerMaxLength
  bodySoftMaxLineLength := l.bodySoftMaxLineLength.getD Limits.defaults.bodySoftMaxLineLength
  footerMaxLineLength := l.footerMaxLineLength.getD Limits.defaults.footerMaxLineLength

/-- The setting of the rule. -/
def RuleLayer.toSetting (l : RuleLayer) : RuleSetting where
  severity := l.severity
  applicability := l.applicability.getD .always
  maxLength := l.maxLength

/-- The configuration of the document. -/
def Layer.toConfig (l : Layer) : Config where
  repository := l.repository
  limits := l.limits.toLimits
  rules := l.rules.map RuleLayer.toSetting
  abbreviations := l.abbreviations
  color := l.color.getD true

end CommitStyle.Config
