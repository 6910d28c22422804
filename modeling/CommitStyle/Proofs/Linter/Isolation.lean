import CommitStyle.Proofs.Linter.Report
import CommitStyle.Proofs.Rule.Options

/-!
# Settings that do not leak

Two configurations that differ in the entry of one rule at most (`Config.SameBut`) treat every other
rule alike : its verdict on a message, its severity and its diagnostic are the same
(`Config.SameBut.issue?_eq`). So the two reports differ in the issues of that rule at most, and the
length limit in its entry counts only for the two rules that have a limit of their own
(`Config.lint_ignores_entry`).
-/

namespace CommitStyle

namespace Rule

theorem ofName?_name (r : Rule) : ofName? r.name = .ok r := by
  cases r <;> rfl

theorem name_injective : Function.Injective name := by
  intro r s h
  have hr := ofName?_name r
  rw [h, ofName?_name] at hr
  exact (Except.ok.inj hr).symm

end Rule

/-- The rule whose entry may override the option. -/
def Options.Field.override? : Options.Field → Option Rule
  | .headerMaxLength => some .headerMaxLengthWithSuggestions
  | .footerMaxLineLength => some .footerMaxLineLength
  | _ => none

/-- An option is overridden only by the rule that reads it. -/
theorem Options.Field.rule_of_override? {f : Field} {r : Rule} (h : f.override? = some r) :
    f.rule = r := by
  cases f <;> cases h <;> rfl

theorem Options.Field.override?_ne {r : Rule} (hheader : r ≠ .headerMaxLengthWithSuggestions)
    (hfooter : r ≠ .footerMaxLineLength) (f : Field) : f.override? ≠ some r := by
  intro h
  cases f <;> cases h <;> contradiction

/-- The report without the issues of the rule. -/
def Report.without (x : Report) (r : Rule) : Report :=
  { x with errors := x.errors.filter (·.rule ≠ r), warnings := x.warnings.filter (·.rule ≠ r) }

namespace Config

/-- The two configurations differ in the entry of the rule at most. -/
structure SameBut (r : Rule) (c d : Config) : Prop where
  repository : c.repository = d.repository
  limits : c.limits = d.limits
  abbreviations : c.abbreviations = d.abbreviations
  color : c.color = d.color
  rules : ∀ name, name ≠ r.name → c.rules.find? name = d.rules.find? name

namespace SameBut

variable {r : Rule} {c d : Config}

/-! ## Other rules -/

theorem setting_eq (h : SameBut r c d) {s : Rule} (hs : s ≠ r) : c.setting s = d.setting s := by
  unfold setting
  rw [h.rules s.name fun heq => hs (Rule.name_injective heq)]

/-- Only an option that the rule may override can differ. -/
theorem agreeOn_options (h : SameBut r c d) {f : Options.Field} (hf : f.override? ≠ some r) :
    c.options.AgreeOn d.options f := by
  cases f with
  | headerMaxLength =>
    have hsetting := h.setting_eq fun heq => hf (congrArg some heq)
    simp only [Options.AgreeOn, options, maxLength, hsetting, h.limits]
  | footerMaxLineLength =>
    have hsetting := h.setting_eq fun heq => hf (congrArg some heq)
    simp only [Options.AgreeOn, options, maxLength, hsetting, h.limits]
  | bodySoftMaxLineLength => simp only [Options.AgreeOn, options, h.limits]
  | abbreviations => simp only [Options.AgreeOn, options, h.abbreviations]
  | repository => simp only [Options.AgreeOn, options, h.repository]

/-- The options of another rule are the same, for none of them can be overridden by this one. -/
theorem agreeOn_of_ne (h : SameBut r c d) {s : Rule} (hs : s ≠ r) (f : Options.Field)
    (hf : f.rule = s) : c.options.AgreeOn d.options f :=
  h.agreeOn_options fun hr => hs (hf.symm.trans (Options.Field.rule_of_override? hr))

theorem evaluate_eq (h : SameBut r c d) {s : Rule} (hs : s ≠ r) (m : Message) :
    c.evaluate s m = d.evaluate s m := by
  unfold evaluate applicability
  rw [Rule.check_eq_of_agreeOn (h.agreeOn_of_ne hs), h.setting_eq hs]

theorem fails_eq (h : SameBut r c d) {s : Rule} (hs : s ≠ r) (m : Message) :
    c.fails m s = d.fails m s := by
  unfold fails
  rw [h.evaluate_eq hs]

theorem severity_eq (h : SameBut r c d) {s : Rule} (hs : s ≠ r) : c.severity s = d.severity s := by
  unfold severity
  rw [h.setting_eq hs]

theorem issue?_eq (h : SameBut r c d) {s : Rule} (hs : s ≠ r) (m : Message) :
    c.issue? m s = d.issue? m s := by
  unfold issue?
  rw [h.evaluate_eq hs, h.severity_eq hs]

/-! ## Reports -/

theorem failures_eq (h : SameBut r c d) (m : Message) (severity : Severity) :
    (c.failures m severity).filter (·.rule ≠ r) = (d.failures m severity).filter (·.rule ≠ r) := by
  have hrules : ((Rule.all.filter fun s => c.severity s = severity && c.fails m s).filter (· ≠ r)) =
      (Rule.all.filter fun s => d.severity s = severity && d.fails m s).filter (· ≠ r) := by
    rw [List.filter_filter, List.filter_filter]
    refine List.filter_congr fun s _ => ?_
    by_cases hs : s = r
    · simp [hs]
    · rw [h.severity_eq hs, h.fails_eq hs]
  unfold failures
  rw [List.filter_map, List.filter_map]
  simp only [Function.comp_def]
  rw [hrules]
  refine List.map_congr_left fun s hs => ?_
  have hne : s ≠ r := by simpa using (List.mem_filter.1 hs).2
  rw [Rule.diagnostic_eq_of_agreeOn (h.agreeOn_of_ne hne)]

/-- Apart from the issues of the rule, both reports are the same. -/
theorem without_eq (h : SameBut r c d) {m : Message} {x y : Report} (hx : c.lint m = .ok x)
    (hy : d.lint m = .ok y) : x.without r = y.without r := by
  obtain ⟨-, rfl⟩ := (c.lint_eq_ok_iff m).1 hx
  obtain ⟨-, rfl⟩ := (d.lint_eq_ok_iff m).1 hy
  simp only [Report.without, h.failures_eq]

/-! ## The entry itself -/

/-- The length limit in the entry of a rule that overrides no option counts for nothing. -/
theorem lint_eq (h : SameBut r c d) (hr : ∀ f : Options.Field, f.override? ≠ some r)
    (hseverity : (c.setting r).severity = (d.setting r).severity)
    (happlicability : (c.setting r).applicability = (d.setting r).applicability) (m : Message) :
    c.lint m = d.lint m := by
  have hissue (s : Rule) : c.issue? m s = d.issue? m s := by
    by_cases hs : s = r
    · subst hs
      unfold issue? evaluate severity applicability
      rw [Rule.check_eq_of_agreeOn fun f _ => h.agreeOn_options (hr f), hseverity, happlicability]
    · exact h.issue?_eq hs m
  unfold lint
  rw [funext hissue]

end SameBut

/-- The configuration with this entry of the rule. -/
def withEntry (c : Config) (r : Rule) (s : RuleSetting) : Config :=
  { c with rules := c.rules.insert r.name s }

theorem sameBut_withEntry (c : Config) (r : Rule) (s : RuleSetting) :
    SameBut r c (c.withEntry r s) where
  repository := rfl
  limits := rfl
  abbreviations := rfl
  color := rfl
  rules name hname := by
    unfold withEntry
    rw [Table.find?_insert, if_neg hname]

/-- The entry of a rule has no effect on other rules : whatever it says, every other rule gives the
same issue or none, and the reports are the same without the issues of the rule. A length limit in
the entry has no effect at all unless the rule is one of the two with a limit of their own. -/
theorem lint_ignores_entry {r : Rule} {c d : Config} (h : SameBut r c d) (m : Message) :
    (∀ s, s ≠ r → c.issue? m s = d.issue? m s) ∧
    (m.Received → ∃ x y, c.lint m = .ok x ∧ d.lint m = .ok y) ∧
    (∀ x y, c.lint m = .ok x → d.lint m = .ok y → x.without r = y.without r) ∧
    (r ≠ .headerMaxLengthWithSuggestions → r ≠ .footerMaxLineLength →
      (c.setting r).severity = (d.setting r).severity →
      (c.setting r).applicability = (d.setting r).applicability → c.lint m = d.lint m) := by
  refine ⟨fun s hs => h.issue?_eq hs m, fun hm => ?_, fun x y => h.without_eq, ?_⟩
  · exact ⟨_, _, c.lint_of_unbroken hm.unbroken, d.lint_of_unbroken hm.unbroken⟩
  · intro hheader hfooter hseverity happlicability
    exact h.lint_eq (Options.Field.override?_ne hheader hfooter) hseverity happlicability m

/-- A short limit in the entry of the rule on headers adds an issue of that rule only, and in the
entry of the rule on paragraphs it adds none. -/
theorem lint_ignores_entry_with_limit :
    ∃ m x y, Message.parse "core: add parser".toList = .ok m ∧ ({} : Config).lint m = .ok x ∧
      (withEntry {} .headerMaxLengthWithSuggestions { maxLength := some 5 }).lint m = .ok y ∧
      x.errors = [] ∧ y.errors ≠ [] ∧
      x.without .headerMaxLengthWithSuggestions = y.without .headerMaxLengthWithSuggestions ∧
      ({} : Config).lint m = (withEntry {} .bodyProse { maxLength := some 5 }).lint m := by
  have hparse : Message.parse "core: add parser".toList =
      .ok ⟨"core: add parser".toList, "core: add parser".toList⟩ := eq_ok_of_toOption (by decide)
  have hlength := sameBut_withEntry {} .headerMaxLengthWithSuggestions { maxLength := some 5 }
  have hprose := sameBut_withEntry {} .bodyProse { maxLength := some 5 }
  obtain ⟨-, hanswers, hwithout, -⟩ := lint_ignores_entry hlength _
  obtain ⟨-, -, -, hsame⟩ := lint_ignores_entry hprose _
  obtain ⟨x, y, hx, hy⟩ := hanswers (.parsed hparse)
  obtain ⟨-, rfl⟩ := (lint_eq_ok_iff _ _).1 hx
  obtain ⟨-, rfl⟩ := (lint_eq_ok_iff _ _).1 hy
  refine ⟨_, _, _, hparse, hx, hy, by decide +kernel, by decide +kernel, hwithout _ _ hx hy, ?_⟩
  exact hsame (by decide) (by decide) rfl rfl

end Config
end CommitStyle
