import CommitStyle.Rule.Check

/-!
# What a rule reads of the options

Every option belongs to one rule (`Options.Field.rule`) : no other rule reads it. So a rule gives
the same verdict on a message whenever the options that belong to it are the same
(`Rule.check_eq_of_agreeOn`), whatever the other options are. Of these the abbreviations are
suggestions, and no offence depends on them. Where a limit is raised (`Options.Loosened`), whatever
was within it still is, so no rule fails that passed before (`Rule.options_reach_own_rules`).
-/

namespace CommitStyle

namespace Options

/-- The options, one by one. -/
inductive Field where
  | headerMaxLength | bodySoftMaxLineLength | footerMaxLineLength | abbreviations | repository
  deriving DecidableEq, Repr

/-- The rule that reads the option. -/
def Field.rule : Field → Rule
  | .headerMaxLength | .abbreviations => .headerMaxLengthWithSuggestions
  | .bodySoftMaxLineLength => .bodySoftMaxLineLength
  | .footerMaxLineLength => .footerMaxLineLength
  | .repository => .commitHashAlone

/-- Both have the same value for the option. -/
def AgreeOn (o p : Options) : Field → Prop
  | .headerMaxLength => o.headerMaxLength = p.headerMaxLength
  | .bodySoftMaxLineLength => o.bodySoftMaxLineLength = p.bodySoftMaxLineLength
  | .footerMaxLineLength => o.footerMaxLineLength = p.footerMaxLineLength
  | .abbreviations => o.abbreviations = p.abbreviations
  | .repository => o.repository = p.repository

/-- No limit of the second options is lower, and their repository is the same. The abbreviations
may differ. -/
structure Loosened (o p : Options) : Prop where
  headerMaxLength : o.headerMaxLength ≤ p.headerMaxLength
  bodySoftMaxLineLength : o.bodySoftMaxLineLength ≤ p.bodySoftMaxLineLength
  footerMaxLineLength : o.footerMaxLineLength ≤ p.footerMaxLineLength
  repository : o.repository = p.repository

end Options

/-! ## Higher limits -/

section Limit

variable {a b : Nat} (hle : a ≤ b)
include hle

theorem Header.isTooLong_of_le {h : Text} (hlong : isTooLong b h = true) :
    isTooLong a h = true := by
  unfold isTooLong at hlong ⊢
  rw [Bool.and_eq_true, decide_eq_true_eq] at hlong ⊢
  exact ⟨hlong.1, Nat.lt_of_le_of_lt hle hlong.2⟩

namespace Message

theorem isOverlong_of_le {l : Line} (hlong : isOverlong b l = true) : isOverlong a l = true := by
  unfold isOverlong at hlong ⊢
  rw [Bool.and_eq_true, Bool.and_eq_true, decide_eq_true_eq] at hlong ⊢
  exact ⟨⟨Nat.lt_of_le_of_lt hle hlong.1.1, hlong.1.2⟩, hlong.2⟩

theorem hasOverlongLine_of_le {m : Message} (hlong : m.hasOverlongLine b = true) :
    m.hasOverlongLine a = true := by
  unfold hasOverlongLine at hlong ⊢
  cases hbody : m.bodyWithoutCode with
  | none => simp [hbody] at hlong
  | some body =>
    rw [hbody, Option.map_some, Option.getD_some, List.any_eq_true] at hlong
    obtain ⟨l, hl, hover⟩ := hlong
    rw [Option.map_some, Option.getD_some, List.any_eq_true]
    exact ⟨l, hl, isOverlong_of_le hle hover⟩

theorem hasOverlongFooter_of_le {m : Message} (hlong : m.hasOverlongFooter b = true) :
    m.hasOverlongFooter a = true := by
  unfold hasOverlongFooter at hlong ⊢
  rw [List.any_eq_true] at hlong ⊢
  obtain ⟨l, hl, hover⟩ := hlong
  rw [decide_eq_true_eq] at hover
  exact ⟨l, hl, decide_eq_true (Nat.lt_of_le_of_lt hle hover)⟩

end Message

end Limit

/-! ## Rules -/

namespace Rule

variable {r : Rule} {o p : Options}

/-- No offence depends on the abbreviations. -/
theorem offends_eq_of_agreeOn
    (h : ∀ f : Options.Field, f.rule = r → f ≠ .abbreviations → o.AgreeOn p f) (m : Message) :
    r.offends o m = r.offends p m := by
  cases r with
  | headerMaxLengthWithSuggestions =>
    have hmax : o.headerMaxLength = p.headerMaxLength := h .headerMaxLength rfl nofun
    simp only [offends, hmax]
  | bodySoftMaxLineLength =>
    have hmax : o.bodySoftMaxLineLength = p.bodySoftMaxLineLength :=
      h .bodySoftMaxLineLength rfl nofun
    simp only [offends, hmax]
  | footerMaxLineLength =>
    have hmax : o.footerMaxLineLength = p.footerMaxLineLength := h .footerMaxLineLength rfl nofun
    simp only [offends, hmax]
  | commitHashAlone =>
    have hrepository : o.repository = p.repository := h .repository rfl nofun
    simp only [offends, hrepository]
  | _ => rfl

theorem offends_of_loosened (h : o.Loosened p) {m : Message} (hoff : r.offends o m = .ok false) :
    r.offends p m = .ok false := by
  have hkeep {f g : Bool} (hlong : g = true → f = true)
      (hf : (.ok f : Except Misuse Bool) = .ok false) :
      (.ok g : Except Misuse Bool) = .ok false := by
    cases hf
    cases g with
    | false => rfl
    | true => cases hlong rfl
  cases r with
  | headerMaxLengthWithSuggestions => exact hkeep (Header.isTooLong_of_le h.headerMaxLength) hoff
  | bodySoftMaxLineLength =>
    exact hkeep (Message.hasOverlongLine_of_le h.bodySoftMaxLineLength) hoff
  | footerMaxLineLength => exact hkeep (Message.hasOverlongFooter_of_le h.footerMaxLineLength) hoff
  | commitHashAlone =>
    simp only [offends, h.repository] at hoff ⊢
    exact hoff
  | _ => exact hoff

theorem diagnostic_eq_of_agreeOn (h : ∀ f : Options.Field, f.rule = r → o.AgreeOn p f)
    (m : Message) : r.diagnostic o m = r.diagnostic p m := by
  cases r with
  | headerMaxLengthWithSuggestions =>
    have hmax : o.headerMaxLength = p.headerMaxLength := h .headerMaxLength rfl
    have hwords : o.abbreviations = p.abbreviations := h .abbreviations rfl
    show headerLengthText o m.header = headerLengthText p m.header
    unfold headerLengthText suggested
    rw [hmax, hwords]
  | bodySoftMaxLineLength =>
    have hmax : o.bodySoftMaxLineLength = p.bodySoftMaxLineLength := h .bodySoftMaxLineLength rfl
    show bodyLengthText o = bodyLengthText p
    unfold bodyLengthText
    rw [hmax]
  | footerMaxLineLength =>
    have hmax : o.footerMaxLineLength = p.footerMaxLineLength := h .footerMaxLineLength rfl
    unfold diagnostic
    rw [hmax]
  | _ => rfl

/-- The verdict depends on the message and the options of the rule alone. -/
theorem check_eq_of_agreeOn (h : ∀ f : Options.Field, f.rule = r → o.AgreeOn p f)
    (m : Message) : r.check o m = r.check p m := by
  unfold check
  rw [offends_eq_of_agreeOn fun f hf _ => h f hf, diagnostic_eq_of_agreeOn h]

theorem map_passed_check (r : Rule) (o : Options) (m : Message) :
    (r.check o m).map Verdict.passed = (r.offends o m).map (!·) := by
  unfold check
  cases r.offends o m <;> rfl

theorem exists_passed_iff {m : Message} :
    (∃ v, r.check o m = .ok v ∧ v.passed = true) ↔ r.offends o m = .ok false := by
  unfold check
  cases r.offends o m <;> simp [Except.map, Verdict.ofOffence]

/-- The verdict of a rule stays the same if none of its own options is changed, whether a rule
passes stays the same if no option but the abbreviations is changed, and a rule that passes still
does so when limits are raised. -/
theorem options_reach_own_rules (r : Rule) (o p : Options) (m : Message) :
    ((∀ f : Options.Field, f.rule = r → o.AgreeOn p f) → r.check o m = r.check p m) ∧
    ((∀ f : Options.Field, f ≠ .abbreviations → o.AgreeOn p f) →
      (r.check o m).map Verdict.passed = (r.check p m).map Verdict.passed) ∧
    (o.Loosened p → ∀ v, r.check o m = .ok v → v.passed = true →
      ∃ w, r.check p m = .ok w ∧ w.passed = true) := by
  refine ⟨fun h => check_eq_of_agreeOn h m, fun h => ?_, fun h v hv hpassed => ?_⟩
  · rw [map_passed_check, map_passed_check, offends_eq_of_agreeOn fun f _ => h f]
  · exact exists_passed_iff.2 (offends_of_loosened h (exists_passed_iff.1 ⟨v, hv, hpassed⟩))

/-- A header of sixteen characters under a limit of ten with a new abbreviation, which fails as
before, and under limits of sixteen and of fifty. -/
theorem options_reach_own_rules_raised :
    ∃ (o p q : Options) (m : Message) (w : Verdict), m.header = "core: add parser".toList ∧
      [o.headerMaxLength, p.headerMaxLength, q.headerMaxLength] = [10, 16, 50] ∧
      bodyProse.check o m = bodyProse.check q m ∧
      (headerMaxLengthWithSuggestions.check o m).map Verdict.passed =
        (headerMaxLengthWithSuggestions.check
          { o with abbreviations := [⟨"parser".toList, "psr"⟩] } m).map Verdict.passed ∧
      headerMaxLengthWithSuggestions.check q m = .ok w ∧ w.passed = true := by
  let m : Message := ⟨"core: add parser".toList, "core: add parser".toList⟩
  let o : Options := ⟨10, 64, 150, [], none⟩
  let p : Options := ⟨16, 64, 150, [], none⟩
  let q : Options := ⟨50, 64, 150, [⟨"parser".toList, "psr"⟩], none⟩
  obtain ⟨hprose, -, -⟩ := options_reach_own_rules bodyProse o q m
  obtain ⟨-, hwords, -⟩ := options_reach_own_rules headerMaxLengthWithSuggestions o
    { o with abbreviations := [⟨"parser".toList, "psr"⟩] } m
  obtain ⟨-, -, hraise⟩ := options_reach_own_rules headerMaxLengthWithSuggestions p q m
  have hshort : headerMaxLengthWithSuggestions.offends p m = .ok false :=
    congrArg Except.ok (by decide)
  obtain ⟨v, hv, hpassed⟩ := exists_passed_iff.2 hshort
  obtain ⟨w, hw, hstill⟩ := hraise ⟨by decide, Nat.le_refl _, Nat.le_refl _, rfl⟩ v hv hpassed
  refine ⟨o, p, q, m, w, rfl, rfl, hprose fun f hf => ?_, hwords fun f hf => ?_, hw, hstill⟩
  · cases f <;> cases hf
  · cases f with
    | abbreviations => exact absurd rfl hf
    | _ => rfl

end Rule
end CommitStyle
