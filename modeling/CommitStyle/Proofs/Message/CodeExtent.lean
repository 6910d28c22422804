import CommitStyle.Proofs.Message.Code

/-!
# How far code reaches

A text has code if two fences in it share no backtick (`Text.HasCode`). Runs of backticks longer
than a fence hold several of them, and code then reaches from the leftmost fence of all to the
rightmost (`Text.CodeBetween.leftmost`, `Text.CodeBetween.rightmost`). What is left has no code
(`Text.not_hasCode_withoutCode`), so there is nothing to take out a second time
(`Text.withoutCode_extent`).
-/

namespace CommitStyle.Text

/-! ## The first place of a pattern and the last -/

/-- The pattern stands behind `before`, and nowhere further left in the text. -/
structure Leftmost (p t before : Text) : Prop where
  occurs : before ++ p <+: t
  first : ∀ a, a ++ p <+: t → before.length ≤ a.length

/-- The pattern stands ahead of `after`, and nowhere further right in the text. -/
structure Rightmost (p t after : Text) : Prop where
  occurs : p ++ after <:+ t
  last : ∀ b, p ++ b <:+ t → after.length ≤ b.length

section Place

variable {p t : Text} (hne : p ≠ [])
include hne

theorem leftmost_of_first {before : Text} (hp : before ++ p <+: t)
    (h : ¬p <:+: before ++ p.dropLast) : Leftmost p t before where
  occurs := hp
  first := by
    intro a ha
    by_contra hlt
    have hlen := length_dropLast_succ hne
    have hstart : before ++ p.dropLast <+: t :=
      ((List.prefix_append_right_inj before).2 (List.dropLast_prefix p)).trans hp
    have hle : (a ++ p).length ≤ (before ++ p.dropLast).length := by
      simp only [List.length_append]
      omega
    exact h ((List.suffix_append a p).isInfix.trans
      (List.prefix_of_prefix_length_le ha hstart hle).isInfix)

theorem rightmost_of_last {after : Text} (hp : p ++ after <:+ t)
    (h : ¬p <:+: p.tail ++ after) : Rightmost p t after where
  occurs := hp
  last := by
    intro b hb
    by_contra hlt
    have hlen := List.length_pos_iff.2 hne
    have hend : p.tail ++ after <:+ t := by
      refine List.IsSuffix.trans ?_ hp
      rw [← List.tail_append_of_ne_nil hne]
      exact List.tail_suffix _
    have hle : (p ++ b).length ≤ (p.tail ++ after).length := by
      simp only [List.length_append, List.length_tail]
      omega
    exact h ((List.prefix_append p b).isInfix.trans
      (List.suffix_of_suffix_length_le hb hend hle).isInfix)

end Place

theorem CodeBetween.leftmost {t before after : Text} (h : t.CodeBetween before after) :
    Leftmost fence t before := by
  obtain ⟨code, ht⟩ := h.fenced
  refine leftmost_of_first fence_ne_nil ⟨code ++ fence ++ after, ?_⟩ h.first
  rw [ht]
  simp only [List.append_assoc]

theorem CodeBetween.rightmost {t before after : Text} (h : t.CodeBetween before after) :
    Rightmost fence t after := by
  obtain ⟨code, ht⟩ := h.fenced
  refine rightmost_of_last fence_ne_nil ⟨before ++ fence ++ code, ?_⟩ h.last
  rw [ht]
  simp only [List.append_assoc]

/-! ## Texts with code -/

/-- Two fences that share no backtick stand in the text. -/
def HasCode (t : Text) : Prop :=
  ∃ a code b, t = a ++ fence ++ code ++ fence ++ b

theorem HasCode.of_infix {t u : Text} (h : t.HasCode) (hin : t <:+: u) : u.HasCode := by
  obtain ⟨a, code, b, rfl⟩ := h
  obtain ⟨x, y, rfl⟩ := hin
  exact ⟨x ++ a, code, b ++ y, by simp only [List.append_assoc]⟩

theorem HasCode.fence_infix {t : Text} (h : t.HasCode) : fence <:+: t := by
  obtain ⟨a, code, b, rfl⟩ := h
  exact ⟨a ++ fence ++ code, b, rfl⟩

theorem hasCode_iff {t : Text} : t.HasCode ↔ ∃ before after, t.CodeBetween before after := by
  constructor
  · rintro ⟨a, code, b, ht⟩
    have hsome : cut fence t ≠ none := fun h =>
      cut_eq_none_iff.1 h ⟨a, code ++ fence ++ b, by rw [ht]; simp only [List.append_assoc]⟩
    obtain ⟨⟨before, rest⟩, hcut⟩ := Option.ne_none_iff_exists'.1 hsome
    have heq := cut_eq_some hcut
    have hfirst := (leftmost_of_first fence_ne_nil ⟨rest, heq.symm⟩
      (first_of_cut fence_ne_nil hcut)).first a ⟨code ++ fence ++ b, by
        rw [ht]
        simp only [List.append_assoc]⟩
    -- Wherever the second fence stands, it is behind the leftmost one of all.
    have hsecond : code ++ fence ++ b <:+ t :=
      ⟨a ++ fence, by rw [ht]; simp only [List.append_assoc]⟩
    have hlength := congrArg List.length (ht.symm.trans heq)
    have hrest := List.suffix_of_suffix_length_le hsecond ⟨before ++ fence, heq.symm⟩ (by
      simp only [List.length_append] at hlength ⊢
      omega)
    exact ⟨before, exists_codeBetween_of_cut hcut
      (List.IsInfix.trans ⟨code, b, rfl⟩ hrest.isInfix)⟩
  · rintro ⟨before, after, hcode⟩
    obtain ⟨code, ht⟩ := hcode.fenced
    exact ⟨before, code, after, ht⟩

theorem withoutCode_of_not_hasCode {t : Text} (h : ¬t.HasCode) : t.withoutCode = t :=
  (withoutCode_cases t).resolve_right fun hcode => h (hasCode_iff.2 hcode)

theorem not_hasCode_withoutCode (t : Text) : ¬t.withoutCode.HasCode := by
  intro h
  by_cases ht : t.HasCode
  · obtain ⟨before, after, hcode⟩ := hasCode_iff.1 ht
    rw [hcode.withoutCode_eq] at h
    exact hcode.not_fence_infix h.fence_infix
  · rw [withoutCode_of_not_hasCode ht] at h
    exact ht h

/-- Of a text with code all that stands from its leftmost fence to its rightmost is taken out, and
no fence is left. Any other text is left as it is. A second time there is nothing to take out. -/
theorem withoutCode_extent (t : Text) :
    (t.HasCode → ∃ before after, Leftmost fence t before ∧ Rightmost fence t after ∧
      t.withoutCode = before ++ after ∧ ¬fence <:+: t.withoutCode) ∧
    (¬t.HasCode → t.withoutCode = t) ∧
    t.withoutCode.withoutCode = t.withoutCode := by
  refine ⟨fun h => ?_, withoutCode_of_not_hasCode,
    withoutCode_of_not_hasCode (not_hasCode_withoutCode t)⟩
  obtain ⟨before, after, hcode⟩ := hasCode_iff.1 h
  refine ⟨before, after, hcode.leftmost, hcode.rightmost, hcode.withoutCode_eq, ?_⟩
  rw [hcode.withoutCode_eq]
  exact hcode.not_fence_infix

/-- Of seven backticks all are taken out, as the fences at both ends share none. Of five none is. -/
example : withoutCode (List.replicate 7 '\x60') = [] ∧
    withoutCode (List.replicate 5 '\x60') = List.replicate 5 '\x60' := by decide

end CommitStyle.Text
