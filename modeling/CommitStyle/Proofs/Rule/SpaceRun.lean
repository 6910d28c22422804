import CommitStyle.Proofs.Rule.CodeJoin
import CommitStyle.Proofs.Rule.Misuse

/-!
# Runs of spaces

The rule on spaces looks for two of them behind any character but a full stop, and a space is such
a character too. A pair of spaces lies in a run of them that is as long as it can be
(`Text.exists_spaceRun`), so what the rule finds are the runs of three or more spaces, wherever they
stand, and the runs of two behind anything but a full stop (`Message.not_hasWideGap_iff`). Nothing
is behind a run at the start of the text.
-/

namespace CommitStyle

namespace Text

/-- There are `n` spaces between two parts of the text, and no space is next to them. -/
structure SpaceRun (t before : Text) (n : Nat) (after : Text) : Prop where
  eq : t = before ++ List.replicate n ' ' ++ after
  left : before.getLast? ≠ some ' '
  right : after.head? ≠ some ' '

theorem exists_spaces_first (t : Text) :
    ∃ n after, t = List.replicate n ' ' ++ after ∧ after.head? ≠ some ' ' := by
  induction t with
  | nil => exact ⟨0, [], rfl, by simp⟩
  | cons c t ih =>
    by_cases hc : c = ' '
    · obtain ⟨n, after, rfl, hright⟩ := ih
      exact ⟨n + 1, after, by rw [hc, List.replicate_succ, List.cons_append], hright⟩
    · exact ⟨0, c :: t, rfl, by simpa using hc⟩

theorem exists_spaces_last (t : Text) :
    ∃ before n, t = before ++ List.replicate n ' ' ∧ before.getLast? ≠ some ' ' := by
  obtain ⟨n, after, ht, hright⟩ := exists_spaces_first t.reverse
  refine ⟨after.reverse, n, ?_, by rwa [List.getLast?_reverse]⟩
  rw [← List.reverse_replicate, ← List.reverse_append, ← ht, List.reverse_reverse]

/-- Spaces in a text are part of a run, which may reach further on both sides. -/
theorem exists_spaceRun (a : Text) (n : Nat) (b : Text) :
    ∃ before i j after, a = before ++ List.replicate i ' ' ∧
      SpaceRun (a ++ List.replicate n ' ' ++ b) before (i + n + j) after := by
  obtain ⟨before, i, rfl, hleft⟩ := exists_spaces_last a
  obtain ⟨j, after, rfl, hright⟩ := exists_spaces_first b
  refine ⟨before, i, j, after, rfl, ?_, hleft, hright⟩
  simp only [List.append_assoc, List.replicate_add]

end Text

namespace Message

open Text

/-- A run of three spaces or more has a gap in it, a space before two spaces. -/
theorem hasWideGap_of_spaceRun {t before after : Text} {n : Nat} (h : SpaceRun t before n after)
    (hn : 3 ≤ n) : hasWideGap t = true := by
  obtain ⟨k, rfl⟩ := Nat.exists_eq_add_of_le hn
  refine hasWideGap_iff.2 ⟨' ', by decide, before, List.replicate k ' ' ++ after, ?_⟩
  rw [h.eq, List.replicate_add]
  simp [List.replicate]

theorem not_hasWideGap_iff {t : Text} : hasWideGap t = false ↔
    ∀ before n after, SpaceRun t before n after → 2 ≤ n →
      n = 2 ∧ (before = [] ∨ before.getLast? = some '.') := by
  constructor
  · intro hgap before n after hrun hn
    have htwo : n = 2 := by
      by_contra hne
      cases hgap.symm.trans (hasWideGap_of_spaceRun hrun (by omega))
    refine ⟨htwo, ?_⟩
    obtain rfl | ⟨front, c, rfl⟩ := List.eq_nil_or_concat' before
    · exact Or.inl rfl
    · rw [List.getLast?_concat]
      by_contra hstop
      rw [not_or] at hstop
      have hin : [c, ' ', ' '] <:+: t := ⟨front, after, by simp [hrun.eq, htwo]⟩
      have hfound := hasWideGap_iff.2 ⟨c, fun hc => hstop.2 (congrArg some hc), hin⟩
      cases hgap.symm.trans hfound
  · intro hruns
    rw [← Bool.not_eq_true, hasWideGap_iff]
    rintro ⟨c, hc, a, b, rfl⟩
    -- The run of the two spaces is no longer than they are, so `c` is what is before it.
    obtain ⟨before, i, j, after, hfront, hrun⟩ := exists_spaceRun (a ++ [c]) 2 b
    have ht : a ++ [c] ++ List.replicate 2 ' ' ++ b = a ++ [c, ' ', ' '] ++ b := by simp
    obtain ⟨htwo, hstop⟩ := hruns before _ after (ht ▸ hrun) (by omega)
    obtain rfl : i = 0 := by omega
    rw [List.replicate_zero, List.append_nil] at hfront
    subst hfront
    rcases hstop with hnil | hlast
    · simp at hnil
    · rw [List.getLast?_concat] at hlast
      exact hc (Option.some.inj hlast)

/-- Three spaces behind a full stop are one run of the wrong length. -/
example : hasWideGap "  core.  It reads".toList = false ∧
    hasWideGap "core.   It reads".toList = true := by decide

end Message

namespace Rule

open Text

/-- The rule passes if, outside code, every run of two spaces or more has two of them and stands at
the start of the text or right behind a full stop, and otherwise fails. -/
theorem tooManySpaces_judges_runs (o : Options) (m : Message) :
    ∃ v, check .tooManySpaces o m = .ok v ∧
      (v.passed = true ↔ ∀ before n after, SpaceRun m.raw.withoutCode before n after → 2 ≤ n →
        n = 2 ∧ (before = [] ∨ before.getLast? = some '.')) := by
  obtain ⟨v, hv, hpassed⟩ := exists_verdict (r := .tooManySpaces) (o := o) (m := m) rfl
  refine ⟨v, hv, ?_⟩
  rw [← Bool.not_eq_false, hpassed, Bool.not_eq_true]
  exact Message.not_hasWideGap_iff

end Rule
end CommitStyle
