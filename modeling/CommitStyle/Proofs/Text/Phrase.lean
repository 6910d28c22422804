import CommitStyle.Proofs.Text.Piece
import CommitStyle.Proofs.Text.Trim

/-!
# Phrases

A phrase is made of words with single spaces between them (`Text.IsPhrase`). The words are the
pieces between its spaces (`Text.IsPhrase.pieces`), so no two spaces stand side by side. A phrase
begins and ends with a character of a word (`Text.IsPhrase.framed`); so does a text that is joined
from phrases, and trimming leaves both as they are (`Text.Framed.trim`).
-/

namespace CommitStyle.Text

/-! ## Framed texts -/

/-- The text begins and ends with a character in `p`. -/
structure Framed (p : Char → Bool) (t : Text) : Prop where
  head : ∃ c, t.head? = some c ∧ p c = true
  last : ∃ c, t.getLast? = some c ∧ p c = true

namespace Framed

variable {p : Char → Bool} {t : Text}

theorem of_forall (hne : t ≠ []) (h : ∀ c ∈ t, p c = true) : Framed p t where
  head := ⟨t.head hne, List.head?_eq_some_head hne, h _ (List.head_mem hne)⟩
  last := ⟨t.getLast hne, List.getLast?_eq_some_getLast hne, h _ (List.getLast_mem hne)⟩

theorem ne_nil (h : Framed p t) : t ≠ [] := by
  rintro rfl
  obtain ⟨c, hc, -⟩ := h.head
  cases hc

theorem append {a b : Text} (ha : Framed p a) (hb : Framed p b) (sep : Text) :
    Framed p (a ++ sep ++ b) := by
  obtain ⟨c, hc, hpc⟩ := ha.head
  obtain ⟨d, hd, hpd⟩ := hb.last
  exact ⟨⟨c, by simp [hc], hpc⟩, d, by simp [hd], hpd⟩

theorem intercalate {sep : Text} {ts : List Text} (hne : ts ≠ []) (h : ∀ t ∈ ts, Framed p t) :
    Framed p (sep.intercalate ts) := by
  induction ts with
  | nil => exact absurd rfl hne
  | cons t ts ih =>
    rw [List.forall_mem_cons] at h
    by_cases hts : ts = []
    · simpa [hts] using h.1
    · rw [List.intercalate_cons_of_ne_nil hts]
      exact h.1.append (ih hts h.2) sep

theorem dropWhile_append {q : Char → Bool} (hq : ∀ c, p c = true → q c = false) (h : Framed p t)
    (u : Text) : (t ++ u).dropWhile q = t ++ u := by
  obtain ⟨c, hc, hpc⟩ := h.head
  obtain ⟨rest, rfl⟩ := List.head?_eq_some_iff.1 hc
  exact List.dropWhile_cons_of_neg (by simp [hq c hpc])

theorem dropEndWhile {q : Char → Bool} (hq : ∀ c, p c = true → q c = false) (h : Framed p t) :
    t.dropEndWhile q = t := by
  obtain ⟨c, hc, hpc⟩ := h.last
  obtain ⟨front, rfl⟩ := List.getLast?_eq_some_iff.1 hc
  exact dropEndWhile_append_cons (hq c hpc) front []

theorem trim (hp : ∀ c, p c = true → CommitStyle.isBlank c = false) (h : Framed p t) :
    t.trim = t := by
  have hstart : trimStart t = t := by simpa [trimStart] using h.dropWhile_append hp []
  rw [Text.trim, hstart]
  exact h.dropEndWhile hp

end Framed

/-! ## Phrases -/

/-- Non-empty words of characters in `p`, with single spaces between them. There is at least one. -/
def IsPhrase (p : Char → Bool) (t : Text) : Prop :=
  ∃ words : List Text, words ≠ [] ∧ (∀ w ∈ words, w ≠ [] ∧ ∀ c ∈ w, p c = true) ∧
    t = [' '].intercalate words

namespace IsPhrase

variable {p q : Char → Bool} {t : Text}

theorem mono (h : IsPhrase p t) (hpq : ∀ c, p c = true → q c = true) : IsPhrase q t := by
  obtain ⟨words, hne, hwords, ht⟩ := h
  exact ⟨words, hne, fun w hw => ⟨(hwords w hw).1, fun c hc => hpq c ((hwords w hw).2 c hc)⟩, ht⟩

theorem word {w : Text} (hne : w ≠ []) (h : ∀ c ∈ w, p c = true) : IsPhrase p w :=
  ⟨[w], List.cons_ne_nil w [], by simpa using ⟨hne, h⟩, by simp⟩

/-- A word before a phrase. -/
theorem cons {w : Text} (hne : w ≠ []) (hw : ∀ c ∈ w, p c = true) (h : IsPhrase p t) :
    IsPhrase p (w ++ ' ' :: t) := by
  obtain ⟨words, hwords, hall, rfl⟩ := h
  refine ⟨w :: words, List.cons_ne_nil w words, List.forall_mem_cons.2 ⟨⟨hne, hw⟩, hall⟩, ?_⟩
  rw [List.intercalate_cons_of_ne_nil hwords]
  simp

/-- A mark behind the last word. -/
theorem concat {c : Char} (h : IsPhrase p t) (hc : p c = true) : IsPhrase p (t ++ [c]) := by
  obtain ⟨words, hwords, hall, rfl⟩ := h
  obtain rfl | ⟨ws, w, rfl⟩ := List.eq_nil_or_concat' words
  · exact absurd rfl hwords
  rw [List.forall_mem_append, List.forall_mem_singleton] at hall
  refine ⟨ws ++ [w ++ [c]], by simp, ?_, ?_⟩
  · rw [List.forall_mem_append, List.forall_mem_singleton]
    refine ⟨hall.1, by simp, fun d hd => ?_⟩
    rcases List.mem_append.1 hd with hd | hd
    · exact hall.2.2 d hd
    · rwa [List.mem_singleton.1 hd]
  · rw [intercalate_append_singleton, intercalate_append_singleton, List.append_assoc]

theorem framed (h : IsPhrase p t) : Framed p t := by
  obtain ⟨words, hwords, hall, rfl⟩ := h
  exact Framed.intercalate hwords fun w hw => Framed.of_forall (hall w hw).1 (hall w hw).2

section Space

variable (hp : p ' ' = false)
include hp

/-- The words are what stands between the spaces. -/
theorem pieces (h : IsPhrase p t) : ∀ w ∈ pieces ' ' t, w ≠ [] ∧ ∀ c ∈ w, p c = true := by
  obtain ⟨words, hwords, hall, rfl⟩ := h
  rw [pieces_intercalate hwords fun w hw hspace => by simp [(hall w hw).2 ' ' hspace] at hp]
  exact hall

theorem not_infix_spaces (h : IsPhrase p t) : ¬[' ', ' '] <:+: t := fun hspaces =>
  (h.pieces hp [] (nil_mem_pieces hspaces)).1 rfl

end Space

theorem eq_space_or (h : IsPhrase p t) {c : Char} (hc : c ∈ t) : c = ' ' ∨ p c = true := by
  obtain ⟨words, -, hall, rfl⟩ := h
  obtain rfl | ⟨w, hw, hcw⟩ := mem_intercalate hc
  · exact Or.inl rfl
  · exact Or.inr ((hall w hw).2 c hcw)

theorem not_mem (h : IsPhrase p t) {c : Char} (hspace : c ≠ ' ') (hc : p c = false) : c ∉ t :=
  fun hmem => (h.eq_space_or hmem).elim hspace (by simp [hc])

end IsPhrase
end CommitStyle.Text
