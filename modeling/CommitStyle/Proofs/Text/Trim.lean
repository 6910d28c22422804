import CommitStyle.Proofs.Text.Cut
import CommitStyle.Text.Blank
import Mathlib.Data.List.TakeWhile

/-!
# What trimming keeps

`Text.trim t` is the part of `t` between two runs of blank characters (`Text.infix_trim`), it begins
and ends with characters that are not blank (`Text.isBlank_head_trim`, `Text.isBlank_getLast_trim`),
and blank characters around a text make no difference to it (`Text.trim_append_blank`,
`Text.trim_blank_append`).
-/

namespace CommitStyle.Text

theorem isBlank_append (a b : Text) : isBlank (a ++ b) = (isBlank a && isBlank b) := by
  unfold isBlank
  exact List.all_append

theorem prefix_dropEndWhile (p : Char → Bool) (t : Text) : dropEndWhile p t <+: t := by
  unfold dropEndWhile
  rw [← List.reverse_suffix, List.reverse_reverse]
  exact List.dropWhile_suffix p

theorem dropEndWhile_append_of_pos {p : Char → Bool} {a b : Text} (hb : ∀ c ∈ b, p c) :
    dropEndWhile p (a ++ b) = dropEndWhile p a := by
  unfold dropEndWhile
  rw [List.reverse_append, List.dropWhile_append_of_pos (by simpa using hb)]

theorem dropEndWhile_append_cons {p : Char → Bool} {c : Char} (hc : p c = false) (a b : Text) :
    dropEndWhile p (a ++ c :: b) = a ++ c :: dropEndWhile p b := by
  unfold dropEndWhile
  rw [List.reverse_append, List.reverse_cons, List.append_assoc, List.singleton_append,
    dropWhile_append_cons hc]
  simp

theorem dropEndWhile_cons {p : Char → Bool} {c : Char} (hc : p c = false) (t : Text) :
    dropEndWhile p (c :: t) = c :: dropEndWhile p t :=
  dropEndWhile_append_cons hc [] t

theorem infix_trim (t : Text) : trim t <:+: t :=
  (prefix_dropEndWhile _ _).isInfix.trans (List.dropWhile_suffix _).isInfix

theorem trimStart_eq_nil_iff {t : Text} : trimStart t = [] ↔ isBlank t = true := by
  unfold trimStart isBlank
  rw [List.dropWhile_eq_nil_iff, List.all_eq_true]

theorem trim_eq_nil_of_blank {t : Text} (h : isBlank t = true) : trim t = [] := by
  unfold trim
  rw [trimStart_eq_nil_iff.2 h]
  rfl

theorem dropEndWhile_eq_nil_iff {p : Char → Bool} {t : Text} :
    dropEndWhile p t = [] ↔ ∀ c ∈ t, p c := by
  unfold dropEndWhile
  rw [List.reverse_eq_nil_iff, List.dropWhile_eq_nil_iff]
  simp

theorem trim_eq_nil_iff {t : Text} : trim t = [] ↔ isBlank t = true := by
  refine ⟨fun h => ?_, trim_eq_nil_of_blank⟩
  rw [← trimStart_eq_nil_iff]
  have hall : ∀ c ∈ trimStart t, CommitStyle.isBlank c := dropEndWhile_eq_nil_iff.1 h
  cases hstart : trimStart t with
  | nil => rfl
  | cons c rest =>
    have hblank := hall c (hstart ▸ List.mem_cons_self)
    have hstop : CommitStyle.isBlank c = false := stop_dropWhile t c (by
      unfold trimStart at hstart
      rw [hstart]
      rfl)
    cases hblank.symm.trans hstop

theorem eq_trim_of_trim? {t u : Text} (h : t.trim? = some u) : u = t.trim ∧ u ≠ [] := by
  unfold trim? at h
  split at h
  · cases h
  · next hne =>
    cases h
    exact ⟨rfl, hne⟩

/-! ## Blank characters around a text -/

theorem trimStart_append {a : Text} (ha : isBlank a = false) (b : Text) :
    trimStart (a ++ b) = trimStart a ++ b := by
  have hne : trimStart a ≠ [] := fun h => by simp [trimStart_eq_nil_iff.1 h] at ha
  unfold trimStart at hne ⊢
  rw [List.dropWhile_append, if_neg (by simpa using hne)]

theorem trim_append_blank (a : Text) {b : Text} (hb : isBlank b = true) :
    trim (a ++ b) = trim a := by
  by_cases ha : isBlank a = true
  · rw [trim_eq_nil_of_blank ha, trim_eq_nil_of_blank (by rw [isBlank_append, ha, hb]; rfl)]
  · unfold trim trimEnd
    rw [trimStart_append (by simpa using ha),
      dropEndWhile_append_of_pos (List.all_eq_true.1 hb)]

theorem trim_blank_append {a : Text} (ha : isBlank a = true) (b : Text) :
    trim (a ++ b) = trim b := by
  unfold trim trimStart
  rw [List.dropWhile_append_of_pos (List.all_eq_true.1 ha)]

/-- What is taken off at the end. -/
theorem exists_eq_dropEndWhile (p : Char → Bool) (t : Text) :
    ∃ b, (∀ c ∈ b, p c = true) ∧ t = dropEndWhile p t ++ b := by
  refine ⟨(t.reverse.takeWhile p).reverse, fun c hc => ?_, ?_⟩
  · exact List.mem_takeWhile_imp (List.mem_reverse.1 hc)
  · unfold dropEndWhile
    rw [← List.reverse_append, List.takeWhile_append_dropWhile, List.reverse_reverse]

theorem exists_eq_trimEnd (t : Text) : ∃ b, isBlank b = true ∧ t = trimEnd t ++ b := by
  obtain ⟨b, hb, ht⟩ := exists_eq_dropEndWhile CommitStyle.isBlank t
  exact ⟨b, List.all_eq_true.2 hb, ht⟩

/-- A text is its trimmed part between blank characters. -/
theorem exists_eq_trim (t : Text) :
    ∃ a b, isBlank a = true ∧ isBlank b = true ∧ t = a ++ trim t ++ b := by
  obtain ⟨b, hb, hend⟩ := exists_eq_trimEnd (trimStart t)
  refine ⟨t.takeWhile CommitStyle.isBlank, b, ?_, hb, ?_⟩
  · exact List.all_eq_true.2 fun c hc => List.mem_takeWhile_imp hc
  · rw [trim, List.append_assoc, ← hend, trimStart, List.takeWhile_append_dropWhile]

theorem trim_eq_of_trimEnd_eq {t u : Text} (h : trimEnd t = trimEnd u) : trim t = trim u := by
  obtain ⟨a, ha, ht⟩ := exists_eq_trimEnd t
  obtain ⟨b, hb, hu⟩ := exists_eq_trimEnd u
  rw [ht, hu, trim_append_blank _ ha, trim_append_blank _ hb, h]

theorem trimEnd_cons_congr {t u : Text} (h : trimEnd t = trimEnd u) (c : Char) :
    trimEnd (c :: t) = trimEnd (c :: u) := by
  unfold trimEnd dropEndWhile at h ⊢
  rw [List.reverse_cons, List.reverse_cons, List.dropWhile_append, List.dropWhile_append,
    List.reverse_injective h]

/-! ## The ends of a trimmed text -/

theorem isBlank_head_trimStart {t : Text} {c : Char} (h : (trimStart t).head? = some c) :
    CommitStyle.isBlank c = false :=
  stop_dropWhile t c h

theorem isBlank_head_trim {t : Text} {c : Char} (h : (trim t).head? = some c) :
    CommitStyle.isBlank c = false := by
  obtain ⟨rest, hrest⟩ := prefix_dropEndWhile CommitStyle.isBlank (trimStart t)
  refine isBlank_head_trimStart (t := t) ?_
  rw [← hrest, List.head?_append]
  unfold trim trimEnd at h
  rw [h]
  rfl

theorem getLast?_dropEndWhile {p : Char → Bool} {t : Text} {c : Char}
    (h : (dropEndWhile p t).getLast? = some c) : p c = false := by
  unfold dropEndWhile at h
  rw [List.getLast?_reverse] at h
  exact stop_dropWhile t.reverse c h

theorem isBlank_getLast_trim {t : Text} {c : Char} (h : (trim t).getLast? = some c) :
    CommitStyle.isBlank c = false :=
  getLast?_dropEndWhile h

end CommitStyle.Text
