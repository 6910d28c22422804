import CommitStyle.Proofs.Text.Phrase
import CommitStyle.Text.WordChar

/-!
# Whole words

`Text.containsWord` walks through a text and keeps the character behind it, since a word boundary
depends on both neighbours of a place. It finds a pattern exactly if the text is made of the pattern
and what is before and behind it, with a boundary on both sides (`Text.containsWord_iff`). If the
pattern begins and ends with word characters, these are the places with no word character next to
the pattern (`Text.standsIn_iff_of_framed`). A pattern that begins with something else needs a word
character before it.
-/

namespace CommitStyle

theorem isBoundary_comm (left right : Option Char) :
    isBoundary left right = isBoundary right left :=
  bne_comm

/-- Next to a word character there is a boundary if nothing or no word character follows. -/
theorem isBoundary_some_left {c : Char} (hc : isWordChar c = true) (right : Option Char) :
    isBoundary (some c) right = true ↔ ∀ d ∈ right, isWordChar d = false := by
  unfold isBoundary
  cases right <;> simp [hc]

theorem isBoundary_some_right {c : Char} (hc : isWordChar c = true) (left : Option Char) :
    isBoundary left (some c) = true ↔ ∀ d ∈ left, isWordChar d = false := by
  rw [isBoundary_comm, isBoundary_some_left hc]

namespace Text

/-- The pattern stands somewhere in the text with a word boundary at both ends. -/
def StandsIn (w t : Text) : Prop :=
  ∃ before after, t = before ++ w ++ after ∧
    isBoundary before.getLast? (w ++ after).head? = true ∧
      isBoundary (before ++ w).getLast? after.head? = true

/-! ## The walk -/

/-- The character before the rest of a walk that has passed one more character. -/
theorem getLast?_or_some (before : Text) (c : Char) (left : Option Char) :
    before.getLast?.or (some c) = (c :: before).getLast?.or left := by
  rw [List.getLast?_cons]
  cases before.getLast? <;> rfl

theorem wordAt_iff {w t : Text} {left : Option Char} : wordAt w left t = true ↔
    ∃ after, t = w ++ after ∧ isBoundary left (w ++ after).head? = true ∧
      isBoundary (w.getLast?.or left) after.head? = true := by
  unfold wordAt
  rw [Bool.and_eq_true, Bool.and_eq_true, List.isPrefixOf_iff_prefix, and_assoc]
  constructor
  · rintro ⟨⟨after, rfl⟩, hleft, hright⟩
    rw [List.drop_left] at hright
    exact ⟨after, rfl, hleft, hright⟩
  · rintro ⟨after, rfl, hleft, hright⟩
    rw [List.drop_left]
    exact ⟨List.prefix_append w after, hleft, hright⟩

theorem containsWordAfter_iff {w t : Text} {left : Option Char} :
    containsWordAfter w left t = true ↔ ∃ before after, t = before ++ w ++ after ∧
      isBoundary (before.getLast?.or left) (w ++ after).head? = true ∧
        isBoundary ((before ++ w).getLast?.or left) after.head? = true := by
  induction t generalizing left with
  | nil =>
    rw [containsWordAfter, wordAt_iff]
    constructor
    · rintro ⟨after, ht, hleft, hright⟩
      exact ⟨[], after, ht, hleft, hright⟩
    · rintro ⟨before, after, ht, hleft, hright⟩
      obtain rfl : before = [] :=
        (List.append_eq_nil_iff.1 (List.append_eq_nil_iff.1 ht.symm).1).1
      exact ⟨after, ht, hleft, hright⟩
  | cons c t ih =>
    rw [containsWordAfter, Bool.or_eq_true, wordAt_iff, ih]
    constructor
    · rintro (⟨after, ht, hleft, hright⟩ | ⟨before, after, rfl, hleft, hright⟩)
      · exact ⟨[], after, ht, hleft, hright⟩
      · rw [getLast?_or_some _ c left] at hleft hright
        exact ⟨c :: before, after, rfl, hleft, hright⟩
    · rintro ⟨before, after, ht, hleft, hright⟩
      cases before with
      | nil => exact Or.inl ⟨after, ht, hleft, hright⟩
      | cons d before =>
        cases ht
        rw [List.cons_append, ← getLast?_or_some] at hright
        rw [← getLast?_or_some] at hleft
        exact Or.inr ⟨before, after, rfl, hleft, hright⟩

theorem containsWord_iff {w t : Text} : containsWord w t = true ↔ StandsIn w t := by
  unfold containsWord StandsIn
  rw [containsWordAfter_iff]
  simp only [Option.or_none]

instance (w t : Text) : Decidable (StandsIn w t) :=
  decidable_of_iff _ containsWord_iff

/-! ## Patterns of word characters -/

/-- A pattern that begins and ends with word characters stands where no word character is next to
it. -/
theorem standsIn_iff_of_framed {w t : Text} (h : Framed isWordChar w) : StandsIn w t ↔
    ∃ before after, t = before ++ w ++ after ∧ (∀ c ∈ before.getLast?, isWordChar c = false) ∧
      ∀ c ∈ after.head?, isWordChar c = false := by
  obtain ⟨c, hc, hfirst⟩ := h.head
  obtain ⟨d, hd, hlast⟩ := h.last
  have hhead (after : Text) : (w ++ after).head? = some c := by
    rw [List.head?_append, hc, Option.some_or]
  have hgetLast (before : Text) : (before ++ w).getLast? = some d := by
    rw [List.getLast?_append, hd, Option.some_or]
  unfold StandsIn
  simp only [hhead, hgetLast, isBoundary_some_left hlast, isBoundary_some_right hfirst]

end Text
end CommitStyle
