import CommitStyle.Text.Basic
import Mathlib.Data.List.Infix
import Mathlib.Data.List.TakeWhile

/-!
# Cuts of longer texts

A walk over a list goes up to the first member that it does not pass, and what is passed and what
is left are known by that (`takeWhile_append_of_stop`, `dropWhile_append_of_stop`).

A walk over a text stops at a character that it does not pass, and a pattern cannot run across a
character that it does not have, so what is cut out of `a ++ d :: b` is cut out of `a` or of `b`
(`Text.cut_append_cons`, `Text.afterLast_append_cons`). In general `Text.cut` and `Text.afterLast`
are known by the places where the pattern occurs : they find it if it is anywhere
(`Text.cut_eq_none_iff`), and the first place and the last one are those before and after which no
other place overlaps the rest (`Text.cut_eq_of_first`, `Text.afterLast_eq_of_last`).
-/

namespace CommitStyle

/-! ## Where a walk stops -/

section Stop

variable {α : Type*} {p : α → Bool}

theorem stop_dropWhile (l : List α) : ∀ x ∈ (l.dropWhile p).head?, p x = false := by
  intro x hx
  have hhead := List.head?_dropWhile_not p l
  rw [Option.mem_def.1 hx] at hhead
  simpa using hhead

variable {a b : List α} (ha : ∀ x ∈ a, p x = true) (hb : ∀ x ∈ b.head?, p x = false)
include ha hb

theorem takeWhile_append_of_stop : (a ++ b).takeWhile p = a := by
  rw [List.takeWhile_append_of_pos ha]
  cases b with
  | nil => exact List.append_nil a
  | cons x b => rw [List.takeWhile_cons_of_neg (by simp [hb x rfl]), List.append_nil]

theorem dropWhile_append_of_stop : (a ++ b).dropWhile p = b := by
  rw [List.dropWhile_append_of_pos ha]
  cases b with
  | nil => rfl
  | cons x b => exact List.dropWhile_cons_of_neg (by simp [hb x rfl])

end Stop

namespace Text

/-! ## Around a character -/

section Walk

variable {p : Char → Bool} {d : Char}

theorem takeWhile_append_cons (hd : p d = false) (a b : Text) :
    (a ++ d :: b).takeWhile p = a.takeWhile p := by
  induction a with
  | nil => exact List.takeWhile_cons_of_neg (by simp [hd])
  | cons c a ih => rw [List.cons_append, List.takeWhile_cons, List.takeWhile_cons, ih]

theorem dropWhile_append_cons (hd : p d = false) (a b : Text) :
    (a ++ d :: b).dropWhile p = a.dropWhile p ++ d :: b := by
  induction a with
  | nil => exact List.dropWhile_cons_of_neg (by simp [hd])
  | cons c a ih =>
    rw [List.cons_append, List.dropWhile_cons, List.dropWhile_cons, ih]
    split <;> rfl

theorem takeWhile_append_cons_of_pos {a : Text} (ha : ∀ c ∈ a, p c = true) (hd : p d = false)
    (b : Text) : (a ++ d :: b).takeWhile p = a := by
  rw [takeWhile_append_cons hd, List.takeWhile_eq_self_iff.2 ha]

theorem dropWhile_append_cons_of_pos {a : Text} (ha : ∀ c ∈ a, p c = true) (hd : p d = false)
    (b : Text) : (a ++ d :: b).dropWhile p = d :: b := by
  rw [dropWhile_append_cons hd, List.dropWhile_eq_nil_iff.2 ha, List.nil_append]

theorem takeWhile_ne_append {a : Text} (ha : d ∉ a) (b : Text) :
    (a ++ d :: b).takeWhile (· ≠ d) = a :=
  takeWhile_append_cons_of_pos (fun _ hc => decide_eq_true (ne_of_mem_of_not_mem hc ha))
    (by simp) b

theorem dropWhile_ne_append {a : Text} (ha : d ∉ a) (b : Text) :
    (a ++ d :: b).dropWhile (· ≠ d) = d :: b :=
  dropWhile_append_cons_of_pos (fun _ hc => decide_eq_true (ne_of_mem_of_not_mem hc ha))
    (by simp) b

theorem dropWhile_ne_eq_nil_iff {t : Text} : t.dropWhile (· ≠ d) = [] ↔ d ∉ t := by
  rw [List.dropWhile_eq_nil_iff]
  simp only [decide_eq_true_eq]
  exact ⟨fun h hd => h d hd rfl, fun hd c hc => ne_of_mem_of_not_mem hc hd⟩

end Walk

section Pattern

variable {p : Text} {d : Char}

theorem isPrefixOf_append_cons (hd : d ∉ p) (a b : Text) :
    p.isPrefixOf (a ++ d :: b) = p.isPrefixOf a := by
  induction p generalizing a with
  | nil => cases a <;> rfl
  | cons e p ih =>
    rw [List.mem_cons, not_or] at hd
    cases a with
    | nil => simp [List.isPrefixOf, Ne.symm hd.1]
    | cons c a => rw [List.cons_append, List.isPrefixOf, List.isPrefixOf, ih hd.2]

theorem drop_append_of_isPrefixOf {a : Text} (h : p.isPrefixOf a = true) (b : Text) :
    (a ++ b).drop p.length = a.drop p.length ++ b :=
  List.drop_append_of_le_length (List.isPrefixOf_iff_prefix.1 h).length_le

theorem cut_append_cons (hd : d ∉ p) (a b : Text) : cut p (a ++ d :: b) =
    ((cut p a).map (Prod.map id (· ++ d :: b))).or ((cut p b).map (Prod.map (a ++ d :: ·) id)) := by
  induction a with
  | nil =>
    have hprefix := isPrefixOf_append_cons hd [] b
    rw [List.nil_append] at hprefix ⊢
    rw [cut, cut, hprefix]
    cases p with
    | nil => rfl
    | cons e p => rfl
  | cons c a ih =>
    have hprefix := isPrefixOf_append_cons hd (c :: a) b
    rw [List.cons_append] at hprefix ⊢
    rw [cut, cut, hprefix]
    split
    · next hp =>
      rw [← List.cons_append, drop_append_of_isPrefixOf hp]
      rfl
    · rw [ih]
      cases cut p a <;> cases cut p b <;> rfl

theorem afterLast_append_cons (hd : d ∉ p) (a b : Text) : afterLast p (a ++ d :: b) =
    (afterLast p b).or ((afterLast p a).map (· ++ d :: b)) := by
  induction a with
  | nil =>
    have hprefix := isPrefixOf_append_cons hd [] b
    rw [List.nil_append] at hprefix ⊢
    rw [afterLast, afterLast, hprefix]
    cases afterLast p b <;> cases p <;> rfl
  | cons c a ih =>
    have hprefix := isPrefixOf_append_cons hd (c :: a) b
    rw [List.cons_append] at hprefix ⊢
    rw [afterLast, afterLast, hprefix, ih]
    cases afterLast p b with
    | some after => rfl
    | none =>
      cases afterLast p a with
      | some after => rfl
      | none =>
        simp only [Option.map_none, Option.or_none]
        split
        · next hp =>
          rw [← List.cons_append, drop_append_of_isPrefixOf hp]
          rfl
        · rfl

end Pattern

/-! ## At a pattern -/

section Occurrence

variable {p : Text}

theorem cut_eq_none_iff {t : Text} : cut p t = none ↔ ¬p <:+: t := by
  induction t with
  | nil => simp [cut]
  | cons c t ih =>
    rw [cut, List.infix_cons_iff, not_or, ← ih, ← List.isPrefixOf_iff_prefix]
    split <;> simp_all

theorem contains_iff {t : Text} : contains p t = true ↔ p <:+: t := by
  unfold contains
  rw [Option.isSome_iff_ne_none, Ne, cut_eq_none_iff, not_not]

theorem afterLast_eq_none_iff {t : Text} : afterLast p t = none ↔ ¬p <:+: t := by
  induction t with
  | nil => simp [afterLast]
  | cons c t ih =>
    rw [afterLast, List.infix_cons_iff, not_or, ← ih, ← List.isPrefixOf_iff_prefix]
    cases afterLast p t with
    | some after => simp
    | none => simp

/-- A pattern does not run across a character that it does not have. -/
theorem infix_append_cons_iff {d : Char} (hd : d ∉ p) {a b : Text} :
    p <:+: a ++ d :: b ↔ p <:+: a ∨ p <:+: b := by
  rw [← not_iff_not, not_or, ← cut_eq_none_iff, ← cut_eq_none_iff, ← cut_eq_none_iff,
    cut_append_cons hd]
  cases cut p a <;> cases cut p b <;> simp

theorem dropLast_prefix_append (a b : Text) : a ++ p.dropLast <+: a ++ p ++ b := by
  rw [List.append_assoc]
  exact (List.prefix_append_right_inj a).2 ((List.dropLast_prefix p).trans (p.prefix_append b))

theorem length_dropLast_succ (hne : p ≠ []) : p.dropLast.length + 1 = p.length := by
  have := List.length_pos_iff.2 hne
  rw [List.length_dropLast]
  omega

/-- No place of the pattern starts before the one that is cut at. -/
theorem first_of_cut (hne : p ≠ []) {t before after : Text} (h : cut p t = some (before, after)) :
    ¬p <:+: before ++ p.dropLast := by
  have hlen := length_dropLast_succ hne
  induction t generalizing before with
  | nil => simp [cut, hne] at h
  | cons c t ih =>
    have ht := cut_eq_some h
    rw [cut] at h
    split at h
    · cases h
      intro hin
      have := hin.length_le
      rw [List.nil_append] at this
      omega
    · next hprefix =>
      obtain ⟨⟨b, a⟩, hba, hc⟩ := Option.map_eq_some_iff.1 h
      cases hc
      rw [List.cons_append, List.infix_cons_iff, not_or]
      refine ⟨fun hp => hprefix (List.isPrefixOf_iff_prefix.2 (hp.trans ?_)), ih hba⟩
      rw [ht]
      exact dropLast_prefix_append (c :: b) _

theorem cut_eq_of_first (hne : p ≠ []) {before : Text} (h : ¬p <:+: before ++ p.dropLast)
    (after : Text) : cut p (before ++ p ++ after) = some (before, after) := by
  have hlen := length_dropLast_succ hne
  induction before with
  | nil =>
    obtain ⟨c, q, rfl⟩ := List.exists_cons_of_ne_nil hne
    rw [List.nil_append, List.cons_append, cut, ← List.cons_append,
      if_pos (List.isPrefixOf_iff_prefix.2 (List.prefix_append _ _)), List.drop_left]
  | cons c b ih =>
    rw [List.cons_append, List.infix_cons_iff, not_or] at h
    have hprefix : ¬p <+: c :: (b ++ p ++ after) := fun hp =>
      h.1 (List.prefix_of_prefix_length_le hp (dropLast_prefix_append (c :: b) after)
        (by simp; omega))
    rw [List.cons_append, List.cons_append, cut, if_neg (by rwa [List.isPrefixOf_iff_prefix]),
      ih h.2]
    rfl

/-- No place of the pattern ends behind the last one. -/
theorem last_of_afterLast (hne : p ≠ []) {t after : Text} (h : afterLast p t = some after) :
    (∃ before, t = before ++ p ++ after) ∧ ¬p <:+: p.tail ++ after := by
  induction t with
  | nil => simp [afterLast, hne] at h
  | cons c t ih =>
    rw [afterLast] at h
    split at h
    · next a ha =>
      cases h
      obtain ⟨⟨before, rfl⟩, hlast⟩ := ih ha
      exact ⟨⟨c :: before, rfl⟩, hlast⟩
    · next ha =>
      split at h
      · next hp =>
        cases h
        obtain ⟨rest, hrest⟩ := List.isPrefixOf_iff_prefix.1 hp
        have htail : p.tail ++ rest = t := by rw [← List.tail_append_of_ne_nil hne, hrest]; rfl
        rw [← hrest, List.drop_left, htail]
        exact ⟨⟨[], rfl⟩, afterLast_eq_none_iff.1 ha⟩
      · cases h

theorem afterLast_eq_of_last (hne : p ≠ []) {after : Text} (h : ¬p <:+: p.tail ++ after)
    (before : Text) : afterLast p (before ++ p ++ after) = some after := by
  induction before with
  | nil =>
    obtain ⟨c, q, rfl⟩ := List.exists_cons_of_ne_nil hne
    have hnone : afterLast (c :: q) (q ++ after) = none := afterLast_eq_none_iff.2 h
    rw [List.nil_append, List.cons_append, afterLast, hnone]
    simp only
    rw [← List.cons_append, if_pos (List.isPrefixOf_iff_prefix.2 (List.prefix_append _ _)),
      List.drop_left]
  | cons c b ih => rw [List.cons_append, List.cons_append, afterLast, ih]

end Occurrence

end Text
end CommitStyle
