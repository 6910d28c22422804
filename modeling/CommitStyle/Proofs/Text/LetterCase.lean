import CommitStyle.Text.LetterCase
import CommitStyle.Text.WordChar

/-!
# ASCII letters

What the tables of letters say about the letters of ASCII, which are not in them : the two notions
of case are one on letters, a small letter is a word character and not uppercase, and a capital is
not lowercase.
-/

namespace CommitStyle

theorem isUpper_iff {c : Char} : c.isUpper = true ↔ 65 ≤ c.toNat ∧ c.toNat ≤ 90 := by
  rw [← Char.toNat_val]
  exact decide_eq_true_iff

theorem isLower_iff {c : Char} : c.isLower = true ↔ 97 ≤ c.toNat ∧ c.toNat ≤ 122 := by
  rw [← Char.toNat_val]
  exact Bool.and_eq_true_iff.trans (and_congr decide_eq_true_iff decide_eq_true_iff)

theorem isAlpha_of_isLower {c : Char} (h : c.isLower = true) : c.isAlpha = true :=
  Bool.or_eq_true_iff.2 (Or.inr h)

theorem isAlpha_of_isUpper {c : Char} (h : c.isUpper = true) : c.isAlpha = true :=
  Bool.or_eq_true_iff.2 (Or.inl h)

theorem isUpper_eq_false_of_isLower {c : Char} (h : c.isLower = true) : c.isUpper = false := by
  rw [isLower_iff] at h
  rw [← Bool.not_eq_true, isUpper_iff]
  omega

theorem toNat_lt_of_isAlpha {c : Char} (h : c.isAlpha = true) : c.toNat < 0x80 := by
  rcases Bool.or_eq_true_iff.1 h with h | h
  · rw [isUpper_iff] at h
    omega
  · rw [isLower_iff] at h
    omega

theorem isUppercase_of_isAlpha {c : Char} (h : c.isAlpha = true) : isUppercase c = c.isUpper :=
  if_pos (toNat_lt_of_isAlpha h)

theorem isLowercase_of_isAlpha {c : Char} (h : c.isAlpha = true) : isLowercase c = c.isLower :=
  if_pos (toNat_lt_of_isAlpha h)

theorem isLower_eq_not_isUpper {c : Char} (h : c.isAlpha = true) : c.isLower = !c.isUpper := by
  cases hlower : c.isLower with
  | true => rw [isUpper_eq_false_of_isLower hlower, Bool.not_false]
  | false =>
    obtain hupper | hlower' := Bool.or_eq_true_iff.1 h
    · rw [hupper, Bool.not_true]
    · cases hlower.symm.trans hlower'

theorem isUppercase_of_isLower {c : Char} (h : c.isLower = true) : isUppercase c = false := by
  rw [isLower_iff] at h
  unfold isUppercase
  rw [if_pos (by omega), ← Bool.not_eq_true, isUpper_iff]
  omega

theorem isLowercase_of_isUpper {c : Char} (h : c.isUpper = true) : isLowercase c = false := by
  rw [isUpper_iff] at h
  unfold isLowercase
  rw [if_pos (by omega), ← Bool.not_eq_true, isLower_iff]
  omega

theorem isWordChar_of_isLower {c : Char} (h : c.isLower = true) : isWordChar c = true := by
  have hascii := isLower_iff.1 h
  unfold isWordChar
  rw [if_pos (by omega)]
  simp [Char.isAlphanum, isAlpha_of_isLower h]

namespace Text

/-- A character without another lowercase form is kept. -/
theorem mem_lowercase {c : Char} {t : Text} (hc : lowercaseOf c = [c]) (hsigma : c ≠ '\u03a3')
    (h : c ∈ t) : c ∈ t.lowercase := by
  have hall (before : Text) : c ∈ lowercaseAfter before t := by
    induction t generalizing before with
    | nil => cases h
    | cons d t ih =>
      rw [lowercaseAfter, List.mem_append]
      rcases List.mem_cons.1 h with rfl | h
      · rw [if_neg hsigma, hc]
        exact Or.inl (List.mem_singleton_self c)
      · exact Or.inr (ih h (d :: before))
  exact hall []

end Text
end CommitStyle
