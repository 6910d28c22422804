import CommitStyle.Proofs.Text.Stack

/-!
# Blocks of phrases

A layout is a text of blocks with empty lines between them. If each block is made of phrases
(`Text.Laid`), nothing is lost in it : its lines are those of the blocks
(`Text.Laid.lines_layout`), its paragraphs are the blocks (`Text.Laid.paragraphs_layout`), and
trimming leaves it as it is.
-/

namespace CommitStyle.Text

/-- The text of blocks of lines, with an empty line between two blocks. -/
def layout (bs : List (List Text)) : Text :=
  ['\n', '\n'].intercalate (bs.map joinRows)

theorem layout_cons (b : List Text) {bs : List (List Text)} (hne : bs ≠ []) :
    layout (b :: bs) = joinRows b ++ '\n' :: '\n' :: layout bs :=
  stacked_cons (joinRows b) (by simpa using hne)

/-! ## Laid texts -/

/-- Blocks that have lines, and lines that are phrases. -/
structure Laid (p : Char → Bool) (bs : List (List Text)) : Prop where
  nonempty : ∀ b ∈ bs, b ≠ []
  phrases : ∀ b ∈ bs, ∀ l ∈ b, IsPhrase p l

namespace Laid

variable {p : Char → Bool} {bs : List (List Text)}

theorem cons_iff {b : List Text} : Laid p (b :: bs) ↔
    (b ≠ [] ∧ ∀ l ∈ b, IsPhrase p l) ∧ Laid p bs := by
  constructor
  · rintro ⟨hne, hphrases⟩
    rw [List.forall_mem_cons] at hne hphrases
    exact ⟨⟨hne.1, hphrases.1⟩, hne.2, hphrases.2⟩
  · rintro ⟨⟨hne, hphrases⟩, hbs⟩
    exact ⟨List.forall_mem_cons.2 ⟨hne, hbs.nonempty⟩,
      List.forall_mem_cons.2 ⟨hphrases, hbs.phrases⟩⟩

/-- The lines of a laid text are phrases or empty. -/
theorem phrase_of_mem (h : Laid p bs) {l : Text} (hl : l ∈ [[]].intercalate bs) :
    l = [] ∨ IsPhrase p l := by
  rcases mem_intercalate hl with rfl | ⟨b, hb, hl⟩
  · exact Or.inl rfl
  · exact Or.inr (h.phrases b hb l hl)

theorem framed_joinRows (h : Laid p bs) {b : List Text} (hb : b ∈ bs) : Framed p (joinRows b) :=
  Framed.intercalate (h.nonempty b hb) fun l hl => (h.phrases b hb l hl).framed

theorem framed_layout (h : Laid p bs) (hne : bs ≠ []) : Framed p (layout bs) := by
  refine Framed.intercalate (by simpa using hne) fun t ht => ?_
  obtain ⟨b, hb, rfl⟩ := List.mem_map.1 ht
  exact h.framed_joinRows hb

section Solid

variable (hp : ∀ c, p c = true → CommitStyle.isBlank c = false)
include hp

theorem not_mem_phrase {l : Text} (h : IsPhrase p l) {c : Char}
    (hc : CommitStyle.isBlank c = true) (hspace : c ≠ ' ') : c ∉ l :=
  h.not_mem hspace (Bool.eq_false_iff.2 fun hpc => by simp [hp c hpc] at hc)

theorem pieces_joinRows (h : Laid p bs) {b : List Text} (hb : b ∈ bs) :
    pieces '\n' (joinRows b) = b :=
  pieces_intercalate (h.nonempty b hb) fun l hl =>
    not_mem_phrase hp (h.phrases b hb l hl) (by decide) (by decide)

theorem pieces_layout (h : Laid p bs) (hne : bs ≠ []) :
    pieces '\n' (layout bs) = [[]].intercalate bs := by
  induction bs with
  | nil => exact absurd rfl hne
  | cons b bs ih =>
    have hrows := h.pieces_joinRows hp List.mem_cons_self
    by_cases hbs : bs = []
    · rw [hbs]
      simpa [layout] using hrows
    · rw [layout_cons b hbs, pieces_append, hrows, ← List.nil_append ('\n' :: layout bs),
        pieces_append, ih (cons_iff.1 h).2 hbs, List.intercalate_cons_of_ne_nil hbs]
      simp [Text.pieces]

theorem lines_joinRows (h : Laid p bs) {b : List Text} (hb : b ∈ bs) :
    (lines (joinRows b)).map Line.text = b := by
  rw [map_text_lines, h.pieces_joinRows hp hb]
  exact map_dropReturn fun l hl =>
    not_mem_phrase hp (h.phrases b hb l hl) (by decide) (by decide)

theorem isParagraph_joinRows (h : Laid p bs) {b : List Text} (hb : b ∈ bs) :
    IsParagraph (joinRows b) where
  trimmed := (h.framed_joinRows hb).trim hp
  solid := fun l hl => by
    have htext : l.text ∈ (lines (joinRows b)).map Line.text := List.mem_map_of_mem hl
    rw [h.lines_joinRows hp hb] at htext
    exact (h.phrases b hb _ htext).framed.ne_nil

/-- The paragraphs of a laid text are its blocks. -/
theorem paragraphs_layout (h : Laid p bs) (hne : bs ≠ []) :
    paragraphs (layout bs) = bs.map fun b => ⟨joinRows b⟩ := by
  have hparts : ∀ t ∈ bs.map joinRows, IsParagraph t := by
    intro t ht
    obtain ⟨b, hb, rfl⟩ := List.mem_map.1 ht
    exact h.isParagraph_joinRows hp hb
  exact (paragraphs_stacked (by simpa using hne) hparts).trans List.map_map

/-- The lines of a laid text are those of its blocks, with an empty one between two blocks. -/
theorem lines_layout (h : Laid p bs) (hne : bs ≠ []) :
    (lines (layout bs)).map Line.text = [[]].intercalate bs := by
  rw [map_text_lines, h.pieces_layout hp hne]
  refine map_dropReturn fun l hl => ?_
  rcases h.phrase_of_mem hl with rfl | hphrase
  · exact List.not_mem_nil
  · exact not_mem_phrase hp hphrase (by decide) (by decide)

theorem mem_layout (h : Laid p bs) (hne : bs ≠ []) {c : Char} (hc : c ∈ layout bs) :
    c = '\n' ∨ c = ' ' ∨ p c = true := by
  rw [← intercalate_pieces '\n' (layout bs), h.pieces_layout hp hne] at hc
  rcases mem_intercalate hc with hfeed | ⟨l, hl, hmem⟩
  · exact Or.inl hfeed
  rcases h.phrase_of_mem hl with rfl | hphrase
  · cases hmem
  · exact Or.inr (hphrase.eq_space_or hmem)

theorem not_infix_spaces (h : Laid p bs) (hne : bs ≠ []) : ¬[' ', ' '] <:+: layout bs := by
  intro hin
  have hfeed : '\n' ∉ [' ', ' '] := by decide
  obtain ⟨l, hl, hspaces⟩ := exists_piece_of_infix hfeed hin
  rw [h.pieces_layout hp hne] at hl
  rcases h.phrase_of_mem hl with rfl | hphrase
  · exact absurd (List.infix_nil.1 hspaces) (by decide)
  · have hspace : p ' ' = false := Bool.eq_false_iff.2 fun hps => absurd (hp ' ' hps) (by decide)
    exact hphrase.not_infix_spaces hspace hspaces

end Solid
end Laid

end CommitStyle.Text
