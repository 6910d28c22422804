import CommitStyle.Config.Read

/-!
# Single settings

A `Setting` is the address of one setting, with the type of its values. `Config.value?` is what a
configuration has there, `Setting.entry?` what a document has there. A text that is a document gives
a setting some value (`Setting.IsGiven`) or leaves it out (`Setting.IsOmitted`). Both can be
computed.
-/

namespace CommitStyle

open Config

/-- The shared length limits, one by one. -/
inductive Limit where
  | header | body | footer
  deriving DecidableEq, Repr

/-- The address of a setting, with the type of its values. -/
inductive Setting : Type → Type where
  | repository : Setting String
  | limit (l : Limit) : Setting UInt64
  | color : Setting Bool
  | severity (rule : String) : Setting Severity
  | applicability (rule : String) : Setting Applicability
  | maxLength (rule : String) : Setting UInt64
  | abbreviation (word : String) : Setting String

variable {α : Type}

/-! ## Values -/

/-- The limit with this address. -/
def Limits.get (ls : Limits) : Limit → UInt64
  | .header => ls.headerMaxLength
  | .body => ls.bodySoftMaxLineLength
  | .footer => ls.footerMaxLineLength

theorem Limits.ext_get {a b : Limits} (h : ∀ l, a.get l = b.get l) : a = b := by
  cases a
  cases b
  cases h .header
  cases h .body
  cases h .footer
  rfl

/-- The value of the setting, if it has one. A rule without an entry always applies. -/
def Config.value? (c : Config) : Setting α → Option α
  | .repository => c.repository
  | .limit l => some (c.limits.get l)
  | .color => some c.color
  | .severity r => (c.rules.find? r).bind RuleSetting.severity
  | .applicability r => some ((c.rules.find? r).getD {}).applicability
  | .maxLength r => (c.rules.find? r).bind RuleSetting.maxLength
  | .abbreviation w => c.abbreviations.find? w

/-! ## Places in a document -/

/-- The name of the limit in its group. -/
def Limit.name : Limit → String
  | .header => "header_max_length"
  | .body => "body_soft_max_line_length"
  | .footer => "footer_max_line_length"

/-- What a group has for the setting of this name, which may be told by its place alone. -/
def member? (names : List String) (name : String) (j : Json) : Option Json :=
  (group? .toml names j).bind (·.lookup name)

/-- What an object has for a key. Of two fields with the key the later counts. -/
def keyed? (key : String) : Json → Option Json
  | .object fields => fields.reverse.lookup key
  | _ => none

/-- The part of the document with this name. -/
def part? (name : String) : Json → Option Json :=
  member? ["repository", "limits", "rules", "abbreviations", "ui"] name

/-- What the group of limits has for one of them. -/
def limitMember? (l : Limit) : Json → Option Json :=
  member? ["header_max_length", "body_soft_max_line_length", "footer_max_line_length"] l.name

/-- What the table of a rule has for one of its settings. -/
def ruleMember? (name : String) : Json → Option Json :=
  member? ["severity", "applicability", "max_length"] name

/-- The table of the rule. -/
def ruleTable? (rule : String) (j : Json) : Option Json :=
  (part? "rules" j).bind (keyed? rule)

namespace Setting

/-- What the document has for the setting. -/
def entry? : Setting α → Json → Option Json
  | .repository, j => part? "repository" j
  | .limit l, j => (part? "limits" j).bind (limitMember? l)
  | .color, j => (part? "ui" j).bind (member? ["color"] "color")
  | .severity r, j => (ruleTable? r j).bind (ruleMember? "severity")
  | .applicability r, j => (ruleTable? r j).bind (ruleMember? "applicability")
  | .maxLength r, j => (ruleTable? r j).bind (ruleMember? "max_length")
  | .abbreviation w, j => (part? "abbreviations" j).bind (keyed? w)

/-- The value that is written for the setting. -/
def read? : Setting α → Json → Option α
  | .repository => string?
  | .limit _ => length?
  | .color => bool?
  | .severity _ => severity?
  | .applicability _ => applicability? .toml
  | .maxLength _ => length?
  | .abbreviation _ => string?

/-- The value where none is given. -/
def default? (s : Setting α) : Option α :=
  ({} : Config).value? s

/-- The setting is one of the shared limits. -/
def isLimit : Setting α → Bool
  | .limit _ => true
  | _ => false

/-- The setting is the one for colours. -/
def isColor : Setting α → Bool
  | .color => true
  | _ => false

/-- The rule whose entry has the setting. -/
def rule? : Setting α → Option String
  | .severity r | .applicability r | .maxLength r => some r
  | _ => none

/-- The text is a document that gives the setting this value. -/
def IsGiven (s : Setting α) (v : α) (t : Text) : Prop :=
  ∃ j w, Toml.read? t = some j ∧ s.entry? j = some w ∧ s.read? w = some v

/-- The text is a document without the setting. -/
def IsOmitted (s : Setting α) (t : Text) : Prop :=
  ∃ j, Toml.read? t = some j ∧ s.entry? j = none

/-- The text is a document without a table of the rule. -/
def IsRuleOmitted (rule : String) (t : Text) : Prop :=
  ∃ j, Toml.read? t = some j ∧ ruleTable? rule j = none

instance [DecidableEq α] (s : Setting α) (v : α) (t : Text) : Decidable (s.IsGiven v t) :=
  decidable_of_iff ((Toml.read? t).bind (fun j => (s.entry? j).bind s.read?) = some v) <| by
    simp only [IsGiven, Option.bind_eq_some_iff, exists_and_left]

instance (s : Setting α) (t : Text) : Decidable (s.IsOmitted t) :=
  decidable_of_iff ((Toml.read? t).any fun j => (s.entry? j).isNone) <| by
    simp only [IsOmitted, Option.any_eq_true, Option.isNone_iff_eq_none]

instance (rule : String) (t : Text) : Decidable (IsRuleOmitted rule t) :=
  decidable_of_iff ((Toml.read? t).any fun j => (ruleTable? rule j).isNone) <| by
    simp only [IsRuleOmitted, Option.any_eq_true, Option.isNone_iff_eq_none]

end Setting
end CommitStyle
