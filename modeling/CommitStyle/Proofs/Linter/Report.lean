import CommitStyle.Proofs.Rule.Misuse

/-!
# What a report holds

`Config.lint` applies the rules one after another and drops each issue into the list of its
severity. `Config.failures` says what the two lists are without the loop : the rules of one
severity that fail, in the order of all rules, each with its diagnostic and the guidelines.
`Config.lint_eq_ok_iff` is the loop against that description, for every configuration and message :
from it follows what a reader of a report relies on.
-/

namespace CommitStyle

/-! ## Recording issues -/

namespace Report

theorem foldl_push (issues : List Issue) : ∀ r : Report, issues.foldl push r =
    { r with
      errors := r.errors ++ issues.filter (·.severity = .error)
      warnings := r.warnings ++ issues.filter (·.severity = .warning) } := by
  induction issues with
  | nil => simp
  | cons i issues ih =>
    intro r
    rw [List.foldl_cons, ih]
    unfold push
    cases h : i.severity <;> simp [h]

theorem ofIssues_eq (header : Text) (issues : List Issue) : ofIssues header issues =
    { header
      errors := issues.filter (·.severity = .error)
      warnings := issues.filter (·.severity = .warning) } := by
  simp [ofIssues, foldl_push]

end Report

namespace Config

variable (c : Config) (m : Message)

/-! ## The failing rules -/

/-- The rule gives a failing verdict on the message. -/
def fails (r : Rule) : Bool :=
  match c.evaluate r m with
  | .ok v => !v.passed
  | .error _ => false

/-- The issues of this severity : the rules reported so that fail, in order. -/
def failures (s : Severity) : List Issue :=
  (Rule.all.filter fun r => c.severity r = s && c.fails m r).map fun r =>
    ⟨r, r.diagnostic c.options m ++ Verdict.guidelines, s⟩

/-- Every rule that is not disabled gives a verdict. -/
def Answers : Prop :=
  ∀ r, c.severity r ≠ .disabled → ∃ v, c.evaluate r m = .ok v

/-- The issue of the rule, where it gives a verdict if it is not disabled. -/
def issueOf (r : Rule) : Option Issue :=
  if c.severity r ≠ .disabled ∧ c.fails m r then
    some ⟨r, r.diagnostic c.options m ++ Verdict.guidelines, c.severity r⟩
  else none

theorem text_of_evaluate {r : Rule} {v : Verdict} (h : c.evaluate r m = .ok v) :
    v.text = r.diagnostic c.options m := by
  rw [evaluate_eq] at h
  cases ho : r.offends c.options m with
  | error e => rw [ho] at h; cases h
  | ok b =>
    rw [ho] at h
    cases h
    rfl

theorem fails_eq_true_iff {r : Rule} :
    c.fails m r = true ↔ ∃ v, c.evaluate r m = .ok v ∧ v.passed = false := by
  unfold fails
  cases h : c.evaluate r m with
  | error e => simp
  | ok v => simp

theorem issue?_eq_issueOf {r : Rule}
    (h : c.severity r ≠ .disabled → ∃ v, c.evaluate r m = .ok v) :
    c.issue? m r = .ok (c.issueOf m r) := by
  unfold issue? issueOf
  by_cases hd : c.severity r = .disabled
  · simp [hd]
  · obtain ⟨v, hv⟩ := h hd
    have htext := c.text_of_evaluate m hv
    cases hp : v.passed <;>
      simp [hd, hv, hp, fails, Except.map, Verdict.message, htext]

theorem exists_of_issue? {r : Rule} {x : Option Issue} (h : c.issue? m r = .ok x) :
    c.severity r ≠ .disabled → ∃ v, c.evaluate r m = .ok v := by
  intro hd
  unfold issue? at h
  rw [if_neg hd] at h
  cases hv : c.evaluate r m with
  | error e => rw [hv] at h; cases h
  | ok v => exact ⟨v, rfl⟩

/-- Picking the issues of one severity out of those of some rules picks the rules. -/
theorem filter_issueOf {s : Severity} (hs : s ≠ .disabled) (rules : List Rule) :
    (rules.filterMap (c.issueOf m)).filter (·.severity = s) =
      (rules.filter fun r => c.severity r = s && c.fails m r).map fun r =>
        ⟨r, r.diagnostic c.options m ++ Verdict.guidelines, s⟩ := by
  induction rules with
  | nil => rfl
  | cons r rules ih =>
    by_cases hsev : c.severity r = s
    · cases hf : c.fails m r <;> simp [issueOf, hf, hsev, hs, ih]
    · by_cases hi : c.severity r ≠ .disabled ∧ c.fails m r
      · simp [issueOf, hi, hsev, ih]
      · rw [List.filterMap_cons_none (by simp only [issueOf, if_neg hi]), ih]
        simp [hsev]

/-! ## The report -/

/-- The linter answers if every enabled rule does, with the failing rules of both severities. -/
theorem lint_eq_ok_iff {report : Report} : c.lint m = .ok report ↔ c.Answers m ∧
    report = ⟨m.header, none, c.failures m .error, c.failures m .warning⟩ := by
  have hreport : Report.ofIssues m.header ((Rule.all.map (c.issueOf m)).filterMap id) =
      ⟨m.header, none, c.failures m .error, c.failures m .warning⟩ := by
    rw [List.filterMap_map, Function.id_comp, Report.ofIssues_eq,
      c.filter_issueOf m (by decide), c.filter_issueOf m (by decide)]
    rfl
  have hlint (h : c.Answers m) : c.lint m =
      .ok ⟨m.header, none, c.failures m .error, c.failures m .warning⟩ := by
    unfold lint
    rw [mapM_eq_ok fun r _ => c.issue?_eq_issueOf m (h r), ← hreport]
    rfl
  constructor
  · intro h
    have hanswers : c.Answers m := by
      intro r
      unfold lint at h
      cases hissues : Rule.all.mapM (c.issue? m) with
      | error e => rw [hissues] at h; cases h
      | ok issues =>
        obtain ⟨x, hx⟩ := exists_of_mapM_eq_ok hissues r r.mem_all
        exact c.exists_of_issue? m hx
    rw [hlint hanswers] at h
    cases h
    exact ⟨hanswers, rfl⟩
  · rintro ⟨h, rfl⟩
    exact hlint h

theorem lint_of_unbroken {m : Message} (hb : '\n' ∉ m.header) :
    c.lint m = .ok ⟨m.header, none, c.failures m .error, c.failures m .warning⟩ :=
  (c.lint_eq_ok_iff m).2 ⟨fun r _ => c.evaluate_of_unbroken r hb, rfl⟩

theorem mem_failures {s : Severity} {i : Issue} : i ∈ c.failures m s ↔
    c.severity i.rule = s ∧ i.severity = s ∧ ∃ v, c.evaluate i.rule m = .ok v ∧
      v.passed = false ∧ i.message = v.text ++ Verdict.guidelines := by
  unfold failures
  simp only [List.mem_map, List.mem_filter, Bool.and_eq_true, decide_eq_true_eq]
  constructor
  · rintro ⟨r, ⟨-, hs, hf⟩, rfl⟩
    obtain ⟨v, hv, hp⟩ := (c.fails_eq_true_iff m).1 hf
    exact ⟨hs, rfl, v, hv, hp, by rw [c.text_of_evaluate m hv]⟩
  · rintro ⟨hs, rfl, v, hv, hp, hmessage⟩
    refine ⟨i.rule, ⟨i.rule.mem_all, hs, (c.fails_eq_true_iff m).2 ⟨v, hv, hp⟩⟩, ?_⟩
    rw [c.text_of_evaluate m hv] at hmessage
    rw [← hmessage]

theorem failures_eq_nil_of_passed (h : ∀ r v, c.evaluate r m = .ok v → v.passed = true)
    (s : Severity) : c.failures m s = [] := by
  refine List.eq_nil_iff_forall_not_mem.2 fun i hi => ?_
  obtain ⟨-, -, v, hv, hpassed, -⟩ := (c.mem_failures m).1 hi
  simp [h i.rule v hv] at hpassed

theorem map_rule_failures (s : Severity) : (c.failures m s).map Issue.rule =
    Rule.all.filter fun r => c.severity r = s && c.fails m r := by
  unfold failures
  simp [Function.comp_def]

/-- No rule is reported twice, not even with two severities. -/
theorem nodup_failures :
    ((c.failures m .error ++ c.failures m .warning).map Issue.rule).Nodup := by
  have hall : Rule.all.Nodup := by decide
  rw [List.map_append, map_rule_failures, map_rule_failures]
  refine List.nodup_append.2 ⟨hall.filter _, hall.filter _, ?_⟩
  rintro r he s hw rfl
  simp only [List.mem_filter, Bool.and_eq_true, decide_eq_true_eq] at he hw
  cases he.2.1.symm.trans hw.2.1

theorem failures_eq_nil_iff {s : Severity} (hs : s ≠ .disabled) (h : c.Answers m) :
    c.failures m s = [] ↔
      ∀ r, c.severity r = s → ∃ v, c.evaluate r m = .ok v ∧ v.passed = true := by
  unfold failures
  rw [List.map_eq_nil_iff, List.filter_eq_nil_iff]
  constructor
  · intro hall r hr
    obtain ⟨v, hv⟩ := h r (by simp [hr, hs])
    have hpass := hall r r.mem_all
    simp only [hr, decide_true, Bool.true_and, c.fails_eq_true_iff m] at hpass
    exact ⟨v, hv, by simpa using fun hp => hpass ⟨v, hv, hp⟩⟩
  · intro hall r _
    simp only [Bool.and_eq_true, decide_eq_true_eq, c.fails_eq_true_iff m]
    rintro ⟨hr, v, hv, hp⟩
    obtain ⟨w, hw, hpass⟩ := hall r hr
    cases hv.symm.trans hw
    cases hp.symm.trans hpass

/-! ## Applicability -/

/-- The configuration with another applicability of the rule, and nothing else changed. -/
def withApplicability (r : Rule) (a : Applicability) : Config :=
  { c with rules := c.rules.insert r.name { c.setting r with applicability := a } }

theorem setting_withApplicability (r s : Rule) (a : Applicability) :
    (c.withApplicability r a).setting s =
      if s.name = r.name then { c.setting s with applicability := a } else c.setting s := by
  unfold withApplicability setting
  rw [Table.find?_insert]
  split
  · next h => simp [h]
  · rfl

theorem options_withApplicability (r : Rule) (a : Applicability) :
    (c.withApplicability r a).options = c.options := by
  have hmax (s : Rule) : (c.withApplicability r a).maxLength s = c.maxLength s := by
    unfold maxLength
    rw [setting_withApplicability]
    split <;> rfl
  unfold options
  rw [hmax, hmax]
  rfl

theorem applicability_withApplicability (r : Rule) (a : Applicability) :
    (c.withApplicability r a).applicability r = a := by
  unfold applicability
  rw [setting_withApplicability, if_pos rfl]

/-- A rule that never applies has the opposite verdict, with the same diagnostic. -/
theorem evaluate_of_never {r : Rule} (h : c.applicability r = .never) :
    c.evaluate r m = ((c.withApplicability r .always).evaluate r m).map Verdict.inverted := by
  unfold evaluate
  rw [options_withApplicability, applicability_withApplicability, h]
  cases r.check c.options m with
  | error e => rfl
  | ok v => rfl

/-! ## The promise of a report -/

/-- The report on a message is exactly the failing enabled rules, each once, in the order of all
rules and under its severity. The linter reports on every message from outside, and on any message
on which every enabled rule gives a verdict. -/
theorem lint_reports_exactly_failures :
    (m.Received → ∃ report, c.lint m = .ok report) ∧
    ((∃ report, c.lint m = .ok report) ↔ c.Answers m) ∧
    (∀ report, c.lint m = .ok report →
      report.header = m.header ∧ report.commit = none ∧
      report.errors = c.failures m .error ∧ report.warnings = c.failures m .warning ∧
      (report.issues.map Issue.rule).Nodup ∧
      (∀ i ∈ report.issues, ∃ v, c.evaluate i.rule m = .ok v ∧ v.passed = false ∧
        i.message = v.text ++ Verdict.guidelines ∧ c.severity i.rule = i.severity) ∧
      (∀ r, c.severity r = .disabled → r ∉ report.issues.map Issue.rule) ∧
      (report.isValid = true ↔
        ∀ r, c.severity r = .error → ∃ v, c.evaluate r m = .ok v ∧ v.passed = true)) ∧
    (∀ r, c.applicability r = .never → c.evaluate r m =
      ((c.withApplicability r .always).evaluate r m).map fun v => ⟨!v.passed, v.text⟩) := by
  refine ⟨fun h => ⟨_, c.lint_of_unbroken h.unbroken⟩, ⟨?_, ?_⟩, ?_, fun r h =>
    c.evaluate_of_never m h⟩
  · rintro ⟨report, h⟩
    exact ((c.lint_eq_ok_iff m).1 h).1
  · intro h
    exact ⟨_, (c.lint_eq_ok_iff m).2 ⟨h, rfl⟩⟩
  intro report h
  obtain ⟨hanswers, rfl⟩ := (c.lint_eq_ok_iff m).1 h
  have hissues (i : Issue) (hi : i ∈ c.failures m .error ++ c.failures m .warning) :
      c.severity i.rule ≠ .disabled ∧ c.severity i.rule = i.severity ∧
        ∃ v, c.evaluate i.rule m = .ok v ∧ v.passed = false ∧
          i.message = v.text ++ Verdict.guidelines := by
    rcases List.mem_append.1 hi with hi | hi
    all_goals
      obtain ⟨hs, hsev, hv⟩ := (c.mem_failures m).1 hi
      exact ⟨by simp [hs], hs.trans hsev.symm, hv⟩
  refine ⟨rfl, rfl, rfl, rfl, c.nodup_failures m, ?_, ?_, ?_⟩
  · intro i hi
    obtain ⟨-, hsev, v, hv, hp, hmessage⟩ := hissues i hi
    exact ⟨v, hv, hp, hmessage, hsev⟩
  · intro r hd hr
    obtain ⟨i, hi, rfl⟩ := List.mem_map.1 hr
    exact (hissues i hi).1 hd
  · unfold Report.isValid
    rw [List.isEmpty_iff]
    exact c.failures_eq_nil_iff m (by decide) hanswers

end Config
end CommitStyle
