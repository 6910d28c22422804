import CommitStyle.Config.Document
import CommitStyle.Proofs.Json.RoundTrip

/-!
# Configurations in JSON

A configuration leaves out what is absent when it is written, and a document is read with defaults
for what it leaves out. The two meet in a layer : what is read from a written configuration is
`Config.toLayer`, which gives every setting that there is (`Config.Layer.ofJson?_toJson`), and the
configuration of this layer is the one that was written (`Config.toConfig_toLayer`). As the document
is plain, it also comes back from its text (`Config.json_round_trip`).
-/

namespace CommitStyle

/-! ## Layers that say everything -/

/-- The layer that gives each limit. -/
def Limits.toLayer (l : Limits) : Config.LimitsLayer where
  headerMaxLength := some l.headerMaxLength
  bodySoftMaxLineLength := some l.bodySoftMaxLineLength
  footerMaxLineLength := some l.footerMaxLineLength

/-- The layer that gives the applicability, and of the rest what there is. -/
def RuleSetting.toLayer (s : RuleSetting) : Config.RuleLayer where
  severity := s.severity
  applicability := some s.applicability
  maxLength := s.maxLength

namespace Config

/-- The layer that gives every setting of the configuration. -/
def toLayer (c : Config) : Layer where
  repository := c.repository
  limits := c.limits.toLayer
  rules := c.rules.map RuleSetting.toLayer
  abbreviations := c.abbreviations
  color := some c.color

theorem toConfig_toLayer (c : Config) : c.toLayer.toConfig = c := by
  have hrules : (c.rules.map RuleSetting.toLayer).map RuleLayer.toSetting = c.rules := by
    refine Table.ext_find? fun k => ?_
    rw [Table.find?_map, Table.find?_map, Option.map_map]
    exact congrFun Option.map_id _
  unfold Layer.toConfig toLayer
  rw [hrules]
  rfl

/-! ## Single settings -/

section Settings

variable {α : Type} {write : α → Json} {read : Json → Option α} {name : String}
variable {fields : List (String × Json)}

theorem setting?_of_written {j : Json} {v : α} (hread : read j = some v)
    (hfield : fields.lookup name = some j) : setting? fields name read = some (some v) := by
  unfold setting?
  rw [hfield]
  show (read j).map some = some (some v)
  rw [hread]
  rfl

/-- A setting that is left out where there is none comes back, as it is never written as null. -/
theorem nullable?_of_written {x : Option α} (hread : ∀ v, read (write v) = some v)
    (hnull : read .null = none) (hfield : fields.lookup name = x.map write) :
    nullable? fields name read = some x := by
  unfold nullable?
  rw [hfield]
  cases x with
  | none => rfl
  | some v =>
    rw [Option.map_some]
    split
    · next h => cases h
    · next h =>
      have hv := hread v
      rw [Option.some.inj h, hnull] at hv
      cases hv
    · next j h =>
      rw [← Option.some.inj h, hread]
      rfl

end Settings

theorem length?_ofNat (n : UInt64) : length? (Json.ofNat n.toNat) = some n := by
  have hrange : 0 ≤ (n.toNat : Int) ∧ (n.toNat : Int) < 0x10000000000000000 :=
    ⟨Int.natCast_nonneg _, by have := n.toNat_lt; omega⟩
  show (if 0 ≤ (n.toNat : Int) ∧ (n.toNat : Int) < 0x10000000000000000 then
    some (UInt64.ofNat (n.toNat : Int).toNat) else none) = some n
  rw [if_pos hrange, Int.toNat_natCast, UInt64.ofNat_toNat]

/-- The names of severities are their lowercase names, which are among those that are read. -/
theorem severity?_name (s : Severity) : severity? (.string s.name) = some s := by
  cases s <;> decide

theorem applicability?_name (d : Dialect) (a : Applicability) :
    applicability? d (.string a.name) = some a := by
  cases a <;> rfl

/-! ## Groups -/

theorem exists_fields {j : Json} {written : List (String × Json)} (h : j = .ofFields written) :
    ∃ fields, j = .object fields ∧ ∀ name, fields.lookup name = written.reverse.lookup name :=
  ⟨_, h, Table.find?_ofList written⟩

/-- A field that is left out where there is nothing to write. -/
theorem lookup_optional {α : Type} (x : Option α) (write : α → Json) (key name : String) :
    (x.map fun v => (key, write v)).toList.reverse.lookup name =
      if name = key then x.map write else none := by
  cases x with
  | none => exact (ite_self none).symm
  | some v => exact Table.lookup_cons_ite name (key, write v) []

/-- A table is read entry by entry. -/
theorem table?_of_written {α β : Type} {write : α → Json} {read : Json → Option β} {f : α → β}
    (hread : ∀ v, read (write v) = some (f v)) (t : Table α) :
    table? read (.object (t.map write).entries) = some (t.map f) := by
  have hentry : readEntry read ∘ (fun e : String × α => (e.1, write e.2)) =
      fun e => pure (e.1, f e.2) := by
    funext e
    show (read (write e.2)).map (e.1, ·) = some (e.1, f e.2)
    rw [hread, Option.map_some]
  have hentries : (t.map write).entries.mapM (readEntry read) = some (t.map f).entries := by
    show (t.entries.map fun e => (e.1, write e.2)).mapM (readEntry read) = _
    rw [List.mapM_map, hentry, List.mapM_pure]
    rfl
  show ((t.map write).entries.mapM (readEntry read)).map Table.ofList = some (t.map f)
  rw [hentries, Option.map_some, Table.ofList_entries]

theorem LimitsLayer.ofJson?_limitsToJson (l : Limits) :
    LimitsLayer.ofJson? .json (limitsToJson l) = some l.toLayer := by
  obtain ⟨fields, hl, hfield⟩ := exists_fields (rfl : limitsToJson l = .ofFields _)
  have hheader := setting?_of_written (length?_ofNat l.headerMaxLength)
    ((hfield "header_max_length").trans (by simp [Table.lookup_cons_ite]))
  have hbody := setting?_of_written (length?_ofNat l.bodySoftMaxLineLength)
    ((hfield "body_soft_max_line_length").trans (by simp [Table.lookup_cons_ite]))
  have hfooter := setting?_of_written (length?_ofNat l.footerMaxLineLength)
    ((hfield "footer_max_line_length").trans (by simp))
  unfold LimitsLayer.ofJson?
  rw [hl]
  simp only [group?, Option.bind_eq_bind, Option.bind_some, hheader, hbody, hfooter]
  rfl

theorem RuleLayer.ofJson?_settingToJson (s : RuleSetting) :
    RuleLayer.ofJson? .json (settingToJson s) = some s.toLayer := by
  obtain ⟨fields, hs, hfield⟩ := exists_fields (rfl : settingToJson s = .ofFields _)
  have hseverity := nullable?_of_written (x := s.severity) severity?_name rfl
    ((hfield "severity").trans
      (by simp [List.lookup_append, lookup_optional, Table.lookup_cons_ite]))
  have happlicability := setting?_of_written (applicability?_name .json s.applicability)
    ((hfield "applicability").trans (by simp [List.lookup_append, lookup_optional]))
  have hlength := nullable?_of_written (x := s.maxLength) length?_ofNat rfl
    ((hfield "max_length").trans
      (by simp [List.lookup_append, lookup_optional, Table.lookup_cons_ite]))
  unfold RuleLayer.ofJson?
  rw [hs]
  simp only [group?, Option.bind_eq_bind, Option.bind_some, hseverity, happlicability, hlength]
  rfl

theorem color?_of_written (b : Bool) :
    color? .json (.ofFields [("color", .bool b)]) = some (some b) := by
  obtain ⟨fields, hb, hfield⟩ := exists_fields (rfl : Json.ofFields [("color", .bool b)] = _)
  have hcolor : setting? fields "color" bool? = some (some b) :=
    setting?_of_written (j := .bool b) rfl ((hfield "color").trans (by simp))
  rw [hb]
  exact hcolor

/-- What is read from a written configuration is the layer that gives all its settings. -/
theorem Layer.ofJson?_toJson (c : Config) : Layer.ofJson? .json c.toJson = some c.toLayer := by
  obtain ⟨fields, hc, hfield⟩ := exists_fields (rfl : c.toJson = .ofFields _)
  have hid : c.abbreviations.map id = c.abbreviations :=
    Table.ext_find? fun k => by rw [Table.find?_map, Option.map_id, id]
  have hstring : ∀ s, string? (.string s) = some (id s) := fun _ => rfl
  have hstrings := table?_of_written hstring c.abbreviations
  rw [hid] at hstrings
  have hrepository : nullable? fields "repository" string? = some c.repository := by
    refine nullable?_of_written (fun r => (rfl : string? (.string r) = some r)) rfl
      ((hfield "repository").trans ?_)
    simp [List.lookup_append, lookup_optional, Table.lookup_cons_ite]
  have hlimits := setting?_of_written (LimitsLayer.ofJson?_limitsToJson c.limits)
    ((hfield "limits").trans (by simp [List.lookup_append, lookup_optional, Table.lookup_cons_ite]))
  have hrules := setting?_of_written (table?_of_written RuleLayer.ofJson?_settingToJson c.rules)
    ((hfield "rules").trans (by simp [List.lookup_append, lookup_optional, Table.lookup_cons_ite]))
  have habbreviations := setting?_of_written hstrings
    ((hfield "abbreviations").trans
      (by simp [List.lookup_append, lookup_optional, Table.lookup_cons_ite]))
  have hui := setting?_of_written (color?_of_written c.color)
    ((hfield "ui").trans (by simp [List.lookup_append, lookup_optional]))
  unfold Layer.ofJson?
  rw [hc]
  simp only [group?, Option.bind_eq_bind, Option.bind_some, hrepository, hlimits, hrules,
    habbreviations, hui]
  rfl

/-! ## Documents and texts -/

theorem ofJson?_toJson (c : Config) : ofJson? c.toJson = some c := by
  unfold ofJson?
  rw [Layer.ofJson?_toJson, Option.map_some, toConfig_toLayer]

theorem plain_limitsToJson (l : Limits) (depth : Nat) : (limitsToJson l).Plain (depth + 1) := by
  refine .ofFields fun field hfield => ?_
  simp only [List.mem_cons, List.not_mem_nil, or_false] at hfield
  rcases hfield with rfl | rfl | rfl <;> exact .ofNat depth _

theorem plain_settingToJson (s : RuleSetting) (depth : Nat) :
    (settingToJson s).Plain (depth + 1) := by
  refine .ofFields fun field hfield => ?_
  simp only [List.mem_append, List.mem_cons, Option.mem_toList,
    Option.map_eq_some_iff] at hfield
  obtain (rfl | ⟨v, -, rfl⟩) | ⟨n, -, rfl⟩ := hfield
  · exact .string depth s.applicability.name
  · exact .string depth v.name
  · exact .ofNat depth n

/-- Arrays and objects nest three deep, at a rule. -/
theorem plain_toJson (c : Config) (depth : Nat) : c.toJson.Plain (depth + 3) := by
  refine .ofFields fun field hfield => ?_
  simp only [List.mem_cons, Option.mem_toList, Option.map_eq_some_iff] at hfield
  obtain rfl | rfl | rfl | rfl | ⟨r, -, rfl⟩ := hfield
  · exact .ofTable (fun v => .string (depth + 1) v) c.abbreviations
  · exact plain_limitsToJson c.limits (depth + 1)
  · exact .ofTable (fun s => plain_settingToJson s depth) c.rules
  · refine .ofFields fun field hfield => ?_
    rw [List.mem_singleton.1 hfield]
    exact .bool (depth + 1) c.color
  · exact .string (depth + 2) r

/-- A configuration comes back from the document that it is written as, and from the text of this
document in either layout. -/
theorem json_round_trip (c : Config) :
    ofJson? c.toJson = some c ∧ (Json.read? c.toJson.compact).bind ofJson? = some c ∧
      (Json.read? c.toJson.pretty).bind ofJson? = some c := by
  have hplain : c.toJson.Plain Json.maxDepth := plain_toJson c 124
  have htext (layout : Json.Layout) :
      (Json.read? (Json.writeAt layout 0 c.toJson)).bind ofJson? = some c := by
    rw [hplain.read?_write, Option.bind_some, ofJson?_toJson]
  exact ⟨ofJson?_toJson c, htext .compact, htext .pretty⟩

end Config
end CommitStyle
