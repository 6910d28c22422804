import CommitStyle.Config.Layer
import CommitStyle.Json.Basic

/-!
# Settings documents

A document is a JSON value, whatever language it is written in. A group of settings is an object,
or an array that gives the settings in their order. Names that are no setting are passed over.
`Layer.ofJson?` reads what a document says. `Config.toJson` writes a configuration in the same form,
leaving out what is absent.
-/

namespace CommitStyle.Config

/-! ## Reading -/

/-- The languages in which documents are written. -/
inductive Dialect where
  /-- Arrays may be longer than their group of settings; an alternative may be an empty table. -/
  | toml
  /-- Arrays may not be longer than their group of settings; an alternative may have null. -/
  | json
  deriving DecidableEq, Repr

/-- A value that says nothing beside the name of an alternative. -/
def Dialect.isUnit : Dialect → Json → Bool
  | .toml, .object [] | .toml, .array [] | .json, .null => true
  | _, _ => false

/-- The named settings of a group. -/
def group? (d : Dialect) (names : List String) : Json → Option (List (String × Json))
  | .object fields => some fields
  | .array items =>
    if d = .json ∧ names.length < items.length then none else some (names.zip items)
  | _ => none

/-- What the fields say about the setting. -/
def setting? {α : Type} (fields : List (String × Json)) (name : String) (read : Json → Option α) :
    Option (Option α) :=
  match fields.lookup name with
  | none => some none
  | some j => (read j).map some

/-- What the fields say about a setting where null stands for nothing. -/
def nullable? {α : Type} (fields : List (String × Json)) (name : String)
    (read : Json → Option α) : Option (Option α) :=
  match fields.lookup name with
  | none | some .null => some none
  | some j => (read j).map some

/-- A length. -/
def length? : Json → Option UInt64
  | .number (.integer n) =>
    if 0 ≤ n ∧ n < 0x10000000000000000 then some (.ofNat n.toNat) else none
  | _ => none

/-- A string. -/
def string? : Json → Option String
  | .string s => some s
  | _ => none

/-- A truth value. -/
def bool? : Json → Option Bool
  | .bool b => some b
  | _ => none

/-- A severity, by name or by level. -/
def severity? : Json → Option Severity
  | .number (.integer n) => Severity.ofLevel? n
  | .string s => Severity.ofName? s
  | _ => none

/-- An applicability: a name, or an object of one field that has this name and says no more. -/
def applicability? (d : Dialect) : Json → Option Applicability
  | .string s => Applicability.ofName? s
  | .object [(s, j)] => if d.isUnit j then Applicability.ofName? s else none
  | _ => none

/-- The entry with its value read by `read`. -/
def readEntry {α : Type} (read : Json → Option α) (entry : String × Json) : Option (String × α) :=
  (read entry.2).map (entry.1, ·)

/-- The entries of an object, each read by `read`. -/
def table? {α : Type} (read : Json → Option α) : Json → Option (Table α)
  | .object fields => (fields.mapM (readEntry read)).map Table.ofList
  | _ => none

/-- The group of limits. -/
def LimitsLayer.ofJson? (d : Dialect) (j : Json) : Option LimitsLayer := do
  let fields ←
    group? d ["header_max_length", "body_soft_max_line_length", "footer_max_line_length"] j
  return {
    headerMaxLength := ← setting? fields "header_max_length" length?
    bodySoftMaxLineLength := ← setting? fields "body_soft_max_line_length" length?
    footerMaxLineLength := ← setting? fields "footer_max_line_length" length? }

/-- The entry of a rule. -/
def RuleLayer.ofJson? (d : Dialect) (j : Json) : Option RuleLayer := do
  let fields ← group? d ["severity", "applicability", "max_length"] j
  return {
    severity := ← nullable? fields "severity" severity?
    applicability := ← setting? fields "applicability" (applicability? d)
    maxLength := ← nullable? fields "max_length" length? }

/-- The group of settings for output: what it says about colours. -/
def color? (d : Dialect) (j : Json) : Option (Option Bool) := do
  setting? (← group? d ["color"] j) "color" bool?

/-- What the document says. -/
def Layer.ofJson? (d : Dialect) (j : Json) : Option Layer := do
  let fields ← group? d ["repository", "limits", "rules", "abbreviations", "ui"] j
  return {
    repository := ← nullable? fields "repository" string?
    limits := (← setting? fields "limits" (LimitsLayer.ofJson? d)).getD {}
    rules := (← setting? fields "rules" (table? (RuleLayer.ofJson? d))).getD ∅
    abbreviations := (← setting? fields "abbreviations" (table? string?)).getD ∅
    color := (← setting? fields "ui" (color? d)).join }

/-- The configuration that the JSON document describes. -/
def ofJson? (j : Json) : Option Config :=
  (Layer.ofJson? .json j).map Layer.toConfig

/-! ## Writing -/

/-- The limits as a group. -/
def limitsToJson (l : Limits) : Json :=
  Json.ofFields [
    ("header_max_length", Json.ofNat l.headerMaxLength.toNat),
    ("body_soft_max_line_length", Json.ofNat l.bodySoftMaxLineLength.toNat),
    ("footer_max_line_length", Json.ofNat l.footerMaxLineLength.toNat)]

/-- The entry of a rule. -/
def settingToJson (s : RuleSetting) : Json :=
  Json.ofFields (
    ("applicability", Json.string s.applicability.name) ::
    (s.severity.map fun v => ("severity", Json.string v.name)).toList ++
    (s.maxLength.map fun n => ("max_length", Json.ofNat n.toNat)).toList)

/-- The configuration as a document. -/
def toJson (c : Config) : Json :=
  Json.ofFields (
    ("abbreviations", .object (c.abbreviations.map Json.string).entries) ::
    ("limits", limitsToJson c.limits) ::
    ("rules", .object (c.rules.map settingToJson).entries) ::
    ("ui", Json.ofFields [("color", .bool c.color)]) ::
    (c.repository.map fun r => ("repository", Json.string r)).toList)

end CommitStyle.Config
