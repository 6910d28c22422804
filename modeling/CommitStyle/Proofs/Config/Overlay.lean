import CommitStyle.Config.Overlay
import CommitStyle.Proofs.Config.Document
import CommitStyle.Proofs.Except

/-!
# What an overlay holds

A configuration laid over another one should speak where its document does, and be silent elsewhere.
Setting by setting that is nearly so. A setting that the upper document gives counts, unless it is a
limit written with its default, which is taken as not given (`Config.overlay_holds_given`). A
setting that the upper document leaves out stays as it was below, unless it belongs to a rule that
has a table in the document, whose entry is replaced as a whole (`Config.overlay_keeps_omitted`).
-/

namespace CommitStyle

theorem Limits.get_overlay (base upper : Limits) (l : Limit) : (base.overlay upper).get l =
    if upper.get l = defaults.get l then base.get l else upper.get l := by
  cases l <;> rfl

namespace Config

variable {α : Type} {base upper c d : Config} {s : Setting α} {v : α} {t : Text} {r : String}

/-! ## Overlays setting by setting -/

theorem default?_limit (l : Limit) : (Setting.limit l).default? = some (Limits.defaults.get l) :=
  rfl

theorem find?_rules_overlay (base upper : Config) (r : String) :
    (base.overlay upper).rules.find? r = (upper.rules.find? r).or (base.rules.find? r) :=
  Table.find?_overlay _ _ r

/-- The settings of a rule depend on its entry alone. -/
theorem value?_congr_rule (hs : s.rule? = some r) (h : c.rules.find? r = d.rules.find? r) :
    c.value? s = d.value? s := by
  cases s with
  | severity | applicability | maxLength =>
    cases hs
    simp only [value?, h]
  | repository | limit | color | abbreviation => cases hs

/-- A limit counts where it differs from the default. -/
theorem value?_overlay_limit (base upper : Config) (l : Limit) :
    (base.overlay upper).value? (.limit l) =
      if upper.limits.get l = Limits.defaults.get l then base.value? (.limit l)
      else upper.value? (.limit l) := by
  show some ((base.limits.overlay upper.limits).get l) = _
  rw [Limits.get_overlay]
  split <;> rfl

/-- The other settings that are no rule's count where there are any. -/
theorem value?_overlay (base upper : Config) (hs : s.rule? = none) (hl : ¬s.isLimit) :
    (base.overlay upper).value? s = (upper.value? s).or (base.value? s) := by
  cases s with
  | repository => rfl
  | color => rfl
  | abbreviation w => exact Table.find?_overlay _ _ w
  | limit => exact absurd rfl hl
  | severity | applicability | maxLength => cases hs

/-! ## Settings that the upper document gives -/

theorem isSome_ruleTable? {j : Json} (hs : s.rule? = some r) (h : (s.entry? j).isSome) :
    (ruleTable? r j).isSome := by
  cases s with
  | severity | applicability | maxLength =>
    cases hs
    exact Option.isSome_of_isSome_bind h
  | repository | limit | color | abbreviation => cases hs

/-- A text that gives a setting of a rule has a table of the rule. -/
theorem isSome_find?_rules_of_isGiven (h : ofToml t = .ok c) (hs : s.IsGiven v t)
    (hr : s.rule? = some r) : (c.rules.find? r).isSome := by
  obtain ⟨j, w, hj, hw, -⟩ := hs
  rw [isSome_find?_rules h hj]
  exact isSome_ruleTable? hr (by rw [hw]; rfl)

theorem overlay_holds_given_other (h : ofToml t = .ok upper) (hs : s.IsGiven v t)
    (hl : ¬s.isLimit) : (base.overlay upper).value? s = some v := by
  have hupper : upper.value? s = some v := value?_of_isGiven h hs
  cases hr : s.rule? with
  | some r =>
    -- The entry is replaced as a whole, so what is below is never looked at.
    have hentry : (base.overlay upper).rules.find? r = upper.rules.find? r := by
      rw [find?_rules_overlay, Option.or_of_isSome (isSome_find?_rules_of_isGiven h hs hr)]
    rw [value?_congr_rule hr hentry, hupper]
  | none => rw [value?_overlay base upper hr hl, hupper, Option.some_or]

/-- A setting that the upper document gives has this value in the overlay, but for one case : a
limit that is written with its default has the value from below, whatever that is. -/
theorem overlay_holds_given (base : Config) (h : ofToml t = .ok upper) (hs : s.IsGiven v t) :
    (¬(s.isLimit ∧ s.default? = some v) → (base.overlay upper).value? s = some v) ∧
    (s.isLimit ∧ s.default? = some v → (base.overlay upper).value? s = base.value? s) := by
  by_cases hl : s.isLimit
  -- Of a limit only the value is left, which may be the default though it was written.
  · have hupper : upper.value? s = some v := value?_of_isGiven h hs
    cases s with
    | limit l =>
      have hv : upper.limits.get l = v := Option.some.inj hupper
      rw [value?_overlay_limit, hupper, default?_limit, Option.some.injEq, hv]
      constructor
      · intro hne
        rw [if_neg fun heq => hne ⟨rfl, heq.symm⟩]
      · rintro ⟨-, heq⟩
        rw [if_pos heq.symm]
    | _ => cases hl
  · exact ⟨fun _ => overlay_holds_given_other h hs hl, fun hd => absurd hd.1 hl⟩

/-- A limit of 60 over one of 72. -/
theorem overlay_holds_given_limit :
    ∃ base upper, ofToml "[limits]\nheader_max_length = 72\n".toList = .ok base ∧
      ofToml "[limits]\nheader_max_length = 60\n".toList = .ok upper ∧
      (Setting.limit .header).IsGiven 60 "[limits]\nheader_max_length = 60\n".toList ∧
      (base.overlay upper).value? (.limit .header) = some 60 := by
  have hbase : ofToml "[limits]\nheader_max_length = 72\n".toList =
      .ok { limits := { headerMaxLength := 72 } } := by
    rw [String.toList_ofList]
    exact eq_ok_of_toOption (by decide +kernel)
  have hupper : ofToml "[limits]\nheader_max_length = 60\n".toList =
      .ok { limits := { headerMaxLength := 60 } } := by
    rw [String.toList_ofList]
    exact eq_ok_of_toOption (by decide +kernel)
  have hgiven : (Setting.limit .header).IsGiven 60
      "[limits]\nheader_max_length = 60\n".toList := by
    rw [String.toList_ofList]
    decide +kernel
  exact ⟨_, _, hbase, hupper, hgiven, (overlay_holds_given _ hupper hgiven).1 (by decide)⟩

/-- The default of 50 over a limit of 72. -/
theorem overlay_passes_over_default :
    ∃ base upper, ofToml "[limits]\nheader_max_length = 72\n".toList = .ok base ∧
      ofToml "[limits]\nheader_max_length = 50\n".toList = .ok upper ∧
      (Setting.limit .header).IsGiven 50 "[limits]\nheader_max_length = 50\n".toList ∧
      (base.overlay upper).value? (.limit .header) = some 72 := by
  rw [String.toList_ofList, String.toList_ofList]
  refine ⟨{ limits := { headerMaxLength := 72 } }, {}, eq_ok_of_toOption ?_,
    eq_ok_of_toOption ?_, ?_, rfl⟩
  · decide +kernel
  · decide +kernel
  · decide +kernel

/-! ## Settings that the upper document leaves out -/

theorem overlay_keeps_omitted_rule (h : ofToml t = .ok upper) (hr : s.rule? = some r)
    (ht : Setting.IsRuleOmitted r t) : (base.overlay upper).value? s = base.value? s := by
  obtain ⟨j, hj, htable⟩ := ht
  have hnone : ¬(upper.rules.find? r).isSome := by
    rw [isSome_find?_rules h hj, htable]
    exact Bool.false_ne_true
  refine value?_congr_rule hr ?_
  rw [find?_rules_overlay, Option.not_isSome_iff_eq_none.1 hnone, Option.none_or]

theorem overlay_keeps_omitted_other (h : ofToml t = .ok upper) (hs : s.IsOmitted t)
    (hr : s.rule? = none) (hc : ¬s.isColor) : (base.overlay upper).value? s = base.value? s := by
  have hupper : upper.value? s = s.default? := value?_of_isOmitted h hs
  cases s with
  | repository | abbreviation =>
    rw [value?_overlay base upper hr Bool.false_ne_true, hupper]
    exact Option.none_or
  | limit l =>
    rw [default?_limit] at hupper
    rw [value?_overlay_limit, if_pos (Option.some.inj hupper)]
  | color => exact absurd rfl hc
  | severity | applicability | maxLength => cases hr

/-- A rule that has a table in the upper document has the entry of this table. -/
theorem find?_rules_overlay_of_table (h : ofToml t = .ok upper)
    (ht : ¬Setting.IsRuleOmitted r t) :
    (base.overlay upper).rules.find? r = upper.rules.find? r := by
  obtain ⟨j, l, hj, -⟩ := exists_of_ofToml h
  have hsome : (upper.rules.find? r).isSome := by
    rw [isSome_find?_rules h hj, Option.isSome_iff_ne_none]
    exact fun hnone => ht ⟨j, hj, hnone⟩
  rw [find?_rules_overlay, Option.or_of_isSome hsome]

theorem overlay_default (c : Config) : c.overlay {} = { c with color := true } := by
  have hlimits : c.limits.overlay {} = c.limits :=
    Limits.ext_get fun l => (Limits.get_overlay _ _ l).trans (if_pos rfl)
  show Config.mk c.repository (c.limits.overlay {}) (c.rules.overlay ∅)
    (c.abbreviations.overlay ∅) true = _
  rw [hlimits, Table.overlay_empty, Table.overlay_empty]

/-- A setting that the upper document leaves out stays as it was below, if it is not the one for
colours and no setting of a rule that has a table in the document. Such a rule has the entry of this
table as a whole. The empty document changes nothing, colours apart. -/
theorem overlay_keeps_omitted (base : Config) (h : ofToml t = .ok upper) :
    (∀ {α : Type} (s : Setting α), s.IsOmitted t → ¬s.isColor →
      (∀ r, s.rule? = some r → Setting.IsRuleOmitted r t) →
      (base.overlay upper).value? s = base.value? s) ∧
    (∀ r, ¬Setting.IsRuleOmitted r t →
      (base.overlay upper).rules.find? r = upper.rules.find? r) ∧
    ∃ e, ofToml [] = .ok e ∧ ∀ c : Config, { c.overlay e with color := c.color } = c := by
  refine ⟨fun s hs hc htable => ?_, fun r ht => find?_rules_overlay_of_table h ht,
    {}, rfl, fun c => by rw [overlay_default]⟩
  cases hr : s.rule? with
  | some r => exact overlay_keeps_omitted_rule h hr (htable r hr)
  | none => exact overlay_keeps_omitted_other h hs hr hc

/-- A limit and an entry of a rule over settings of every kind. -/
theorem overlay_keeps_omitted_mixed :
    ∃ base upper, ofToml ("repository = \"owner/base\"\n[limits]\n" ++
        "body_soft_max_line_length = 72\n[rules.empty-wip]\nseverity = 0\n" ++
        "[abbreviations]\nmiscellaneous = \"misc\"\n").toList = .ok base ∧
      ofToml ("[limits]\nheader_max_length = 60\n[rules.type-empty]\nseverity = 2\n").toList =
        .ok upper ∧
      (base.overlay upper).value? .repository = some "owner/base" ∧
      (base.overlay upper).value? (.limit .body) = some 72 ∧
      (base.overlay upper).value? (.severity "empty-wip") = some .disabled ∧
      (base.overlay upper).value? (.abbreviation "miscellaneous") = some "misc" ∧
      (base.overlay upper).rules.find? "type-empty" = some { severity := some .error } := by
  have hupper : ofToml
      ("[limits]\nheader_max_length = 60\n[rules.type-empty]\nseverity = 2\n").toList =
      .ok { limits := { headerMaxLength := 60 }
            rules := .ofList [("type-empty", { severity := some .error })] } := by
    rw [String.toList_ofList]
    exact eq_ok_of_toOption (by decide +kernel)
  obtain ⟨hkept, htable, -⟩ := overlay_keeps_omitted
    { repository := some "owner/base"
      limits := { bodySoftMaxLineLength := 72 }
      rules := .ofList [("empty-wip", { severity := some .disabled })]
      abbreviations := .ofList [("miscellaneous", "misc")] } hupper
  refine ⟨_, _, eq_ok_of_toOption ?base, hupper,
    hkept .repository ?repository Bool.false_ne_true nofun,
    hkept (.limit .body) ?limit Bool.false_ne_true nofun,
    (hkept (.severity "empty-wip") ?severity Bool.false_ne_true ?noTable).trans ?_,
    (hkept (.abbreviation "miscellaneous") ?abbreviation Bool.false_ne_true nofun).trans ?_,
    (htable "type-empty" ?table).trans ?_⟩
  case base =>
    rw [String.toList_append, String.toList_append, String.toList_ofList, String.toList_ofList,
      String.toList_ofList]
    decide +kernel
  case noTable =>
    rintro r ⟨⟩
    rw [String.toList_ofList]
    decide +kernel
  case repository | limit | severity | abbreviation | table =>
    rw [String.toList_ofList]
    decide +kernel
  all_goals decide +kernel

/-- Colours and the severity of a rule, left out by a document that sets another option of the
rule. -/
theorem overlay_drops_omitted :
    ∃ base upper, ofToml
        "[rules.body-prose]\nseverity = 1\n\n[ui]\ncolor = false\n".toList = .ok base ∧
      ofToml "[rules.body-prose]\nmax_length = 9\n".toList = .ok upper ∧
      (Setting.color.IsOmitted "[rules.body-prose]\nmax_length = 9\n".toList ∧
        base.value? .color = some false ∧ (base.overlay upper).value? .color = some true) ∧
      (Setting.severity "body-prose").IsOmitted "[rules.body-prose]\nmax_length = 9\n".toList ∧
      base.value? (.severity "body-prose") = some .warning ∧
      (base.overlay upper).value? (.severity "body-prose") = none := by
  rw [String.toList_ofList, String.toList_ofList]
  refine ⟨{ rules := .ofList [("body-prose", { severity := some .warning })], color := false },
    { rules := .ofList [("body-prose", { maxLength := some 9 })] }, eq_ok_of_toOption ?_,
    eq_ok_of_toOption ?_, ⟨?_, rfl, rfl⟩, ?_, ?_, ?_⟩
  all_goals decide +kernel

end Config
end CommitStyle
