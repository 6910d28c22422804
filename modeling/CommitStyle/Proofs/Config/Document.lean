import CommitStyle.Proofs.Config.Setting
import CommitStyle.Proofs.Table

/-!
# The configuration of a document

A document is read group by group, and each group setting by setting. `Config.Layer.value?_ofJson?`
follows the reading down to one address : a layer has for a setting what the document has at its
place. The configuration of a text has therefore the value that the text gives a setting
(`Config.value?_of_isGiven`), and the default of a setting that the text leaves out
(`Config.value?_of_isOmitted`).
-/

namespace CommitStyle.Config

variable {α β : Type}

/-! ## Parts that were read -/

/-- A part of a document is there if something was read for it, and then this was read from it. -/
def ReadFrom (read : Json → Option α) (part : Option Json) (x : Option α) : Prop :=
  part.map read = x.map some

/-- To take something from what was read is to take it from the part of the document. -/
theorem ReadFrom.bind {read : Json → Option β} {part : Option Json} {x : Option β}
    (h : ReadFrom read part x) {f : β → Option α} {g : Json → Option α}
    (hread : ∀ {j b}, read j = some b → f b = g j) : x.bind f = part.bind g := by
  cases part with
  | none =>
    cases x with
    | none => rfl
    | some b => cases h
  | some j =>
    cases x with
    | none => cases h
    | some b => exact hread (Option.some.inj h)

theorem ReadFrom.eq {read : Json → Option α} {part : Option Json} {x : Option α}
    (h : ReadFrom read part x) : x = part.bind read := by
  rw [← h.bind (f := some) Eq.symm, Option.bind_fun_some]

theorem readFrom_of_setting? {fields : List (String × Json)} {name : String}
    {read : Json → Option α} {x : Option α} (h : setting? fields name read = some x) :
    ReadFrom read (fields.lookup name) x := by
  unfold setting? at h
  cases hj : fields.lookup name with
  | none =>
    rw [hj] at h
    cases h
    rfl
  | some j =>
    rw [hj] at h
    obtain ⟨v, hv, rfl⟩ := Option.map_eq_some_iff.1 h
    exact congrArg some hv

/-- Null stands for nothing, and nothing is read from it. -/
theorem eq_of_nullable? {fields : List (String × Json)} {name : String} {read : Json → Option α}
    {x : Option α} (hnull : read .null = none) (h : nullable? fields name read = some x) :
    x = (fields.lookup name).bind read := by
  unfold nullable? at h
  split at h
  · next hj =>
    cases h
    rw [hj]
    rfl
  · next hj =>
    cases h
    rw [hj]
    exact hnull.symm
  · next j hj =>
    obtain ⟨v, hv, rfl⟩ := Option.map_eq_some_iff.1 h
    rw [hj]
    exact hv.symm

theorem readFrom_of_mapM {read : Json → Option α} (k : String) :
    ∀ {fields : List (String × Json)} {es : List (String × α)},
      fields.mapM (readEntry read) = some es →
        ReadFrom read (fields.reverse.lookup k) (es.reverse.lookup k)
  | [], es, h => by
    cases h
    rfl
  | (name, j) :: fields, es, h => by
    rw [List.mapM_cons] at h
    obtain ⟨e, he, h⟩ := Option.bind_eq_some_iff.1 h
    obtain ⟨es', hes, h⟩ := Option.bind_eq_some_iff.1 h
    obtain ⟨v, hv, rfl⟩ := Option.map_eq_some_iff.1 he
    cases h
    have ih : ReadFrom read (fields.reverse.lookup k) (es'.reverse.lookup k) :=
      readFrom_of_mapM k hes
    -- The first field comes last in both reversed lists, and counts if none of the others does.
    unfold ReadFrom at ih ⊢
    simp only [List.reverse_cons, List.lookup_append, Option.map_or, ih, Table.lookup_cons_ite]
    congr 1
    split
    · exact congrArg some hv
    · rfl

theorem readFrom_of_table? {read : Json → Option α} {j : Json} {t : Table α}
    (h : table? read j = some t) (k : String) : ReadFrom read (keyed? k j) (t.find? k) := by
  cases j with
  | object fields =>
    obtain ⟨es, hes, rfl⟩ := Option.map_eq_some_iff.1 h
    rw [Table.find?_ofList]
    exact readFrom_of_mapM k hes
  | _ => cases h

/-! ## Groups -/

/-- What a layer of limits says about one of them. -/
def LimitsLayer.get? (ls : LimitsLayer) : Limit → Option UInt64
  | .header => ls.headerMaxLength
  | .body => ls.bodySoftMaxLineLength
  | .footer => ls.footerMaxLineLength

theorem LimitsLayer.get_toLimits (ls : LimitsLayer) (l : Limit) :
    ls.toLimits.get l = (ls.get? l).getD (Limits.defaults.get l) := by
  cases l <;> rfl

theorem LimitsLayer.get?_ofJson? {j : Json} {ls : LimitsLayer}
    (h : LimitsLayer.ofJson? .toml j = some ls) (l : Limit) :
    ls.get? l = (limitMember? l j).bind length? := by
  unfold LimitsLayer.ofJson? at h
  obtain ⟨fields, hfields, h⟩ := Option.bind_eq_some_iff.1 h
  obtain ⟨header, hheader, h⟩ := Option.bind_eq_some_iff.1 h
  obtain ⟨body, hbody, h⟩ := Option.bind_eq_some_iff.1 h
  obtain ⟨footer, hfooter, h⟩ := Option.bind_eq_some_iff.1 h
  cases h
  unfold limitMember? member?
  rw [hfields]
  cases l with
  | header => exact (readFrom_of_setting? hheader).eq
  | body => exact (readFrom_of_setting? hbody).eq
  | footer => exact (readFrom_of_setting? hfooter).eq

theorem RuleLayer.eq_of_ofJson? {j : Json} {l : RuleLayer}
    (h : RuleLayer.ofJson? .toml j = some l) :
    l = ⟨(ruleMember? "severity" j).bind severity?,
      (ruleMember? "applicability" j).bind (applicability? .toml),
      (ruleMember? "max_length" j).bind length?⟩ := by
  unfold RuleLayer.ofJson? at h
  obtain ⟨fields, hfields, h⟩ := Option.bind_eq_some_iff.1 h
  obtain ⟨severity, hseverity, h⟩ := Option.bind_eq_some_iff.1 h
  obtain ⟨applicability, happlicability, h⟩ := Option.bind_eq_some_iff.1 h
  obtain ⟨maxLength, hmax, h⟩ := Option.bind_eq_some_iff.1 h
  cases h
  unfold ruleMember? member?
  rw [hfields, eq_of_nullable? rfl hseverity, (readFrom_of_setting? happlicability).eq,
    eq_of_nullable? rfl hmax]
  rfl

theorem color?_eq {j : Json} {x : Option Bool} (h : color? .toml j = some x) :
    x = (member? ["color"] "color" j).bind bool? := by
  obtain ⟨fields, hfields, h⟩ := Option.bind_eq_some_iff.1 h
  unfold member?
  rw [hfields]
  exact (readFrom_of_setting? h).eq

/-! ## Layers -/

/-- What a layer says about a setting. -/
def Layer.value? (l : Layer) : Setting α → Option α
  | .repository => l.repository
  | .limit x => l.limits.get? x
  | .color => l.color
  | .severity r => (l.rules.find? r).bind RuleLayer.severity
  | .applicability r => (l.rules.find? r).bind RuleLayer.applicability
  | .maxLength r => (l.rules.find? r).bind RuleLayer.maxLength
  | .abbreviation w => l.abbreviations.find? w

/-- A layer part by part, each of them read from the document or left as it is without one. -/
theorem Layer.eq_of_ofJson? {j : Json} {l : Layer} (h : Layer.ofJson? .toml j = some l) :
    ∃ limits rules abbreviations color,
      ReadFrom (LimitsLayer.ofJson? .toml) (part? "limits" j) limits ∧
      ReadFrom (table? (RuleLayer.ofJson? .toml)) (part? "rules" j) rules ∧
      ReadFrom (table? string?) (part? "abbreviations" j) abbreviations ∧
      ReadFrom (color? .toml) (part? "ui" j) color ∧
      l = ⟨(part? "repository" j).bind string?, limits.getD {}, rules.getD ∅,
        abbreviations.getD ∅, color.join⟩ := by
  unfold Layer.ofJson? at h
  obtain ⟨fields, hfields, h⟩ := Option.bind_eq_some_iff.1 h
  obtain ⟨repository, hrepository, h⟩ := Option.bind_eq_some_iff.1 h
  obtain ⟨limits, hlimits, h⟩ := Option.bind_eq_some_iff.1 h
  obtain ⟨rules, hrules, h⟩ := Option.bind_eq_some_iff.1 h
  obtain ⟨abbreviations, habbreviations, h⟩ := Option.bind_eq_some_iff.1 h
  obtain ⟨color, hcolor, h⟩ := Option.bind_eq_some_iff.1 h
  cases h
  have hpart (name : String) : part? name j = fields.lookup name := by
    unfold part? member?
    rw [hfields]
    rfl
  simp only [hpart]
  refine ⟨limits, rules, abbreviations, color, readFrom_of_setting? hlimits,
    readFrom_of_setting? hrules, readFrom_of_setting? habbreviations,
    readFrom_of_setting? hcolor, ?_⟩
  rw [eq_of_nullable? rfl hrepository]

/-- To take something from the entry of a rule is to take it from the table of the rule. -/
theorem Layer.bind_rule {j : Json} {l : Layer} (h : Layer.ofJson? .toml j = some l) (r : String)
    {f : RuleLayer → Option α} {g : Json → Option α}
    (hread : ∀ {w b}, RuleLayer.ofJson? .toml w = some b → f b = g w) :
    (l.rules.find? r).bind f = (ruleTable? r j).bind g := by
  obtain ⟨limits, rules, abbreviations, color, -, hrules, -, -, rfl⟩ := eq_of_ofJson? h
  have hfind : (rules.getD ∅).find? r = rules.bind (·.find? r) := by
    cases rules <;> rfl
  unfold ruleTable?
  rw [hfind, Option.bind_assoc, Option.bind_assoc]
  exact hrules.bind fun ht => (readFrom_of_table? ht r).bind hread

/-- A layer says about a setting what the document has at its place. -/
theorem Layer.value?_ofJson? {j : Json} {l : Layer} (h : Layer.ofJson? .toml j = some l)
    (s : Setting α) : l.value? s = (s.entry? j).bind s.read? := by
  obtain ⟨limits, rules, abbreviations, color, hlimits, -, habbreviations, hcolor, hl⟩ :=
    eq_of_ofJson? h
  cases s with
  | repository =>
    rw [hl]
    rfl
  | limit x =>
    have hget : (limits.getD {}).get? x = limits.bind (·.get? x) := by
      cases limits <;> cases x <;> rfl
    rw [hl, Setting.entry?, Option.bind_assoc]
    exact hget.trans (hlimits.bind fun hj => LimitsLayer.get?_ofJson? hj x)
  | color =>
    rw [hl, Setting.entry?, Option.bind_assoc]
    exact hcolor.bind (f := id) color?_eq
  | severity r | applicability r | maxLength r =>
    rw [Setting.entry?, Option.bind_assoc]
    exact bind_rule h r fun hw => by rw [RuleLayer.eq_of_ofJson? hw]; rfl
  | abbreviation w =>
    have hfind : (abbreviations.getD ∅).find? w = abbreviations.bind (·.find? w) := by
      cases abbreviations <;> rfl
    rw [hl, Setting.entry?, Option.bind_assoc]
    exact hfind.trans (habbreviations.bind fun ht => (readFrom_of_table? ht w).eq)

/-- Where a layer says nothing, its configuration has the default. -/
theorem Layer.value?_toConfig (l : Layer) (s : Setting α) :
    l.toConfig.value? s = (l.value? s).or s.default? := by
  have hrule (r : String) : l.toConfig.rules.find? r = (l.rules.find? r).map RuleLayer.toSetting :=
    Table.find?_map _ _ r
  cases s with
  | repository => exact Option.or_none.symm
  | limit x =>
    show some (l.limits.toLimits.get x) = (l.limits.get? x).or (some (Limits.defaults.get x))
    rw [Option.or_some, LimitsLayer.get_toLimits]
  | color =>
    show some (l.color.getD true) = l.color.or (some true)
    rw [Option.or_some]
  | severity r | maxLength r =>
    rw [Config.value?, hrule, Layer.value?]
    cases l.rules.find? r with
    | none => rfl
    | some e => exact Option.or_none.symm
  | applicability r =>
    rw [Config.value?, hrule, Layer.value?]
    cases l.rules.find? r with
    | none => rfl
    | some e => exact Option.or_some.symm
  | abbreviation w => exact Option.or_none.symm

/-! ## Texts -/

theorem validate_eq_ok_iff {c d : Config} : c.validate = .ok d ↔ d = c ∧ c.fault? = none := by
  unfold validate
  cases c.fault? with
  | none => simp [eq_comm]
  | some e => simp

theorem exists_of_ofToml {t : Text} {c : Config} (h : ofToml t = .ok c) :
    ∃ j l, Toml.read? t = some j ∧ Layer.ofJson? .toml j = some l ∧ c = l.toConfig ∧
      c.fault? = none := by
  unfold ofToml at h
  split at h
  · next l hl =>
    obtain ⟨j, hj, hl⟩ := Option.bind_eq_some_iff.1 hl
    obtain ⟨rfl, hfault⟩ := validate_eq_ok_iff.1 h
    exact ⟨j, l, hj, hl, rfl, hfault⟩
  · cases h

variable {t : Text} {c : Config}

/-- The configuration of a text has the values that the text gives. -/
theorem value?_of_isGiven (h : ofToml t = .ok c) {s : Setting α} {v : α} (hs : s.IsGiven v t) :
    c.value? s = some v := by
  obtain ⟨j, l, hj, hl, rfl, -⟩ := exists_of_ofToml h
  obtain ⟨j', w, hj', hw, hv⟩ := hs
  cases hj.symm.trans hj'
  rw [Layer.value?_toConfig, Layer.value?_ofJson? hl, hw, Option.bind_some, hv, Option.some_or]

/-- The configuration of a text has the defaults of the settings that the text leaves out. -/
theorem value?_of_isOmitted (h : ofToml t = .ok c) {s : Setting α} (hs : s.IsOmitted t) :
    c.value? s = s.default? := by
  obtain ⟨j, l, hj, hl, rfl, -⟩ := exists_of_ofToml h
  obtain ⟨j', hj', hentry⟩ := hs
  cases hj.symm.trans hj'
  rw [Layer.value?_toConfig, Layer.value?_ofJson? hl, hentry, Option.bind_none, Option.none_or]

/-- The configuration of a text has an entry for the rules that have a table in the text. -/
theorem isSome_find?_rules {j : Json} (h : ofToml t = .ok c) (hj : Toml.read? t = some j)
    (r : String) : (c.rules.find? r).isSome = (ruleTable? r j).isSome := by
  obtain ⟨j', l, hj', hl, rfl, -⟩ := exists_of_ofToml h
  cases hj.symm.trans hj'
  have hentry : (l.rules.find? r).map (fun _ => ()) = (ruleTable? r j).map fun _ => () := by
    rw [Option.map_eq_bind, Option.map_eq_bind]
    exact Layer.bind_rule hl r fun _ => rfl
  show ((l.rules.map RuleLayer.toSetting).find? r).isSome = _
  rw [Table.find?_map, Option.isSome_map, ← Option.isSome_map (f := fun _ => ()), hentry,
    Option.isSome_map]

end CommitStyle.Config
