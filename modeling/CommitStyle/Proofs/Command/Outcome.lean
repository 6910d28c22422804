import CommitStyle.Proofs.Command.Reading
import CommitStyle.Proofs.Linter.Report

/-!
# How a run of the linter ends

A run that has read a message prints one report and ends as the failing rules demand
(`Run.run_lint`). How it ends depends on the configuration, the message and the treatment of
warnings alone (`Config.ending`) ; what it prints depends on the format and the colours, and not on
the treatment of warnings.
-/

namespace CommitStyle

/-! ## Endings -/

namespace Config

variable (c : Config) (m : Message)

/-- The number of rules of this severity that fail. -/
def failing (s : Severity) : Nat :=
  Rule.all.countP fun r => c.severity r = s && c.fails m r

/-- Every rule of this severity gives a verdict and passes. -/
def Passes (s : Severity) : Prop :=
  ∀ r, c.severity r = s → ∃ v, c.evaluate r m = .ok v ∧ v.passed = true

/-- How a run on the message ends : with the numbers of failing rules if an error fails, or a
warning where warnings are treated as errors. -/
def ending (strict : Bool) : Except Stop Unit :=
  if 0 < c.failing m .error ∨ (strict ∧ 0 < c.failing m .warning) then
    .error (.error (.failed (c.failing m .error) (c.failing m .warning)))
  else .ok ()

theorem length_failures (s : Severity) : (c.failures m s).length = c.failing m s := by
  unfold failures failing
  rw [List.length_map, List.countP_eq_length_filter]

theorem failing_eq_zero_iff {s : Severity} (hs : s ≠ .disabled) (h : c.Answers m) :
    c.failing m s = 0 ↔ c.Passes m s := by
  rw [← length_failures, List.length_eq_zero_iff, c.failures_eq_nil_iff m hs h, Passes]

theorem ending_eq_ok_iff (h : c.Answers m) (strict : Bool) : c.ending m strict = .ok () ↔
    c.Passes m .error ∧ (strict = true → c.Passes m .warning) := by
  rw [← c.failing_eq_zero_iff m (by decide) h, ← c.failing_eq_zero_iff m (by decide) h]
  unfold ending
  split
  · next hfail =>
    refine iff_of_false (by simp) fun hnone => ?_
    rcases hfail with herror | ⟨hstrict, hwarning⟩
    · exact herror.ne' hnone.1
    · exact hwarning.ne' (hnone.2 hstrict)
  · next hpass =>
    refine iff_of_true rfl ⟨by omega, fun hstrict => ?_⟩
    by_contra hwarning
    exact hpass (Or.inr ⟨hstrict, Nat.pos_of_ne_zero hwarning⟩)

end Config

/-- A report without a commit can be displayed in both formats. -/
theorem Report.exists_display {x : Report} (h : x.commit = none) (f : Option OutputFormat) :
    ∃ s, x.display f = .ok s := by
  unfold display displayText headerLine
  rw [h]
  split <;> exact ⟨_, rfl⟩

/-! ## The steps of a run -/

namespace Run

theorem received_of_messageOf {json : Bool} {input : Text} {m : Message}
    (h : messageOf json input = .ok m) : m.Received := by
  unfold messageOf at h
  split at h
  · split at h
    · exact .read (eq_ok_of_mapError h)
    · cases h
  · exact .parsed (eq_ok_of_mapError h)

theorem observes_readMessage (file message : Option String) :
    Observes (readMessage Workspace.host file message) := by
  unfold readMessage
  split
  · exact fun _ => rfl
  · exact .bind (fun _ => rfl) fun _ _ => rfl
  · exact .bind (fun _ => rfl) fun _ _ => rfl

theorem outcome_failures (c : Config) (m : Message) (strict : Bool) :
    (outcome strict [⟨m.header, none, c.failures m .error, c.failures m .warning⟩]).mapError
      Stop.error = c.ending m strict := by
  unfold outcome Config.ending
  simp only [List.flatMap_singleton, Config.length_failures]
  split <;> rfl

variable {c : Config} {m : Message} {json : Bool} {input : Text} {file message : Option String}
  {w : Workspace}

/-- A run on a message that was read prints the report and ends as the rules demand. -/
theorem run_lint (hread : ((readMessage Workspace.host file message).run.run w).1 = .ok input)
    (hparse : messageOf json input = .ok m) {i : Invocation} {shown : Styled}
    (hshown : Report.display ⟨m.header, none, c.failures m .error, c.failures m .warning⟩
      i.format = .ok shown) (color : Bool) :
    (lint Workspace.host color i c file message json).run.run w =
      (c.ending m i.strict,
        { w with printed := w.printed ++ shown.render (color && c.color) }) := by
  have hinput : (readMessage Workspace.host file message).run.run w = (.ok input, w) :=
    Prod.ext hread (observes_readMessage file message w)
  have hreport := c.lint_of_unbroken (received_of_messageOf hparse).unbroken
  unfold lint
  rw [run_bind, hinput]
  simp only [run_bind, run_orError, run_orMisuse, run_ask, hparse, hreport, hshown,
    Except.mapError]
  rw [← outcome_failures]
  rfl

/-- A run of the linter that has read its message succeeds if no error fails, and no warning where
warnings are treated as errors. Otherwise it fails with the numbers of failing rules. Neither the
format nor the colours change how it ends, and the treatment of warnings does not change what it
prints. -/
theorem lint_ends_as_rules_demand
    (hread : ((readMessage Workspace.host file message).run.run w).1 = .ok input)
    (hparse : messageOf json input = .ok m) :
    (∃ shown : Option OutputFormat → Bool → Text,
      (∀ color on i, (lint Workspace.host color i { c with color := on } file message json).run.run
          w = (c.ending m i.strict,
            { w with printed := w.printed ++ shown i.format (color && on) })) ∧
      ∀ color (i : Invocation) v, i.command = .lint file message json →
        (loadConfig Workspace.host i.config).run.run v = (.ok c, w) →
        (i.run Workspace.host color).run.run v = (c.ending m i.strict,
          { w with printed := w.printed ++ shown i.format (color && c.color) })) ∧
    (∀ strict, c.ending m strict = .ok () ↔
      c.Passes m .error ∧ (strict = true → c.Passes m .warning)) ∧
    (∀ strict, c.ending m strict ≠ .ok () → c.ending m strict =
      .error (.error (.failed (c.failing m .error) (c.failing m .warning)))) ∧
    (c.ending m true = .ok () → c.ending m false = .ok ()) := by
  have hanswers : c.Answers m := fun r _ =>
    c.evaluate_of_unbroken r (received_of_messageOf hparse).unbroken
  choose shown hshown using Report.exists_display
    (x := ⟨m.header, none, c.failures m .error, c.failures m .warning⟩) rfl
  refine ⟨⟨fun f color => (shown f).render color, fun color on i => ?_,
    fun color i v hcommand hload => ?_⟩, c.ending_eq_ok_iff m hanswers, fun strict h => ?_, ?_⟩
  · exact run_lint (c := { c with color := on }) hread hparse (hshown i.format) color
  · unfold Invocation.run
    rw [hcommand, run_bind, hload]
    exact run_lint hread hparse (hshown i.format) color
  · unfold Config.ending at h ⊢
    split at h
    · next hfail => rw [if_pos hfail]
    · exact absurd rfl h
  · intro h
    rw [c.ending_eq_ok_iff m hanswers] at h ⊢
    exact ⟨h.1, fun hstrict => absurd hstrict (by decide)⟩

/-- A header without an area is a warning by default, and so an error for a strict run only. -/
theorem lint_ends_as_rules_demand_warned :
    ((Invocation.run Workspace.host true
      ⟨.lint none (some "Add parser") false, false, none, none⟩).run.run {}).1 = .ok () ∧
    ((Invocation.run Workspace.host true
      ⟨.lint none (some "Add parser") false, true, some .json, none⟩).run.run {}).1 =
        .error (.error (.failed 0 1)) := by
  have hread : ((readMessage Workspace.host none (some "Add parser")).run.run {}).1 =
      .ok "Add parser".toList := rfl
  have hparse : messageOf false "Add parser".toList =
      .ok ⟨"Add parser".toList, "Add parser".toList⟩ := eq_ok_of_toOption (by decide)
  have hload : (loadConfig Workspace.host none).run.run {} = (.ok {}, {}) := rfl
  obtain ⟨⟨shown, -, hrun⟩, -, -, -⟩ := lint_ends_as_rules_demand hread hparse
  have herrors : Config.failing {} ⟨"Add parser".toList, "Add parser".toList⟩ .error = 0 := by
    decide +kernel
  have hwarnings : Config.failing {} ⟨"Add parser".toList, "Add parser".toList⟩ .warning = 1 := by
    decide +kernel
  constructor
  · rw [hrun true ⟨_, false, none, none⟩ {} rfl hload, Config.ending, herrors, hwarnings]
    rfl
  · rw [hrun true ⟨_, true, some .json, none⟩ {} rfl hload, Config.ending, herrors, hwarnings]
    rfl

end Run
end CommitStyle
