import CommitStyle.Proofs.Text.Paragraph

/-!
# Texts with empty lines between them

A text is stacked from parts by putting an empty line between two parts. The paragraphs of a stack
are those of its parts (`Text.paragraphs_append`), so a stack of paragraphs is cut into the
paragraphs that it was put together from (`Text.paragraphs_stacked`). A test that finds nothing
across an empty line holds of a stack if it holds of one of the parts (`Text.Splits.stacked`).
-/

namespace CommitStyle.Text

/-- The parts with an empty line between two of them. -/
def stacked (ts : List Text) : Text :=
  ['\n', '\n'].intercalate ts

theorem stacked_singleton (t : Text) : stacked [t] = t :=
  List.intercalate_singleton

theorem stacked_cons (t : Text) {ts : List Text} (hne : ts ≠ []) :
    stacked (t :: ts) = withLine t [] (stacked ts) := by
  unfold stacked withLine
  rw [List.intercalate_cons_of_ne_nil hne, List.append_assoc]
  rfl

theorem Tight.of_trim_eq {t : Text} (hne : t ≠ []) (h : trim t = t) : Tight t :=
  tight_of_trim? (t := t) (by rw [trim?, h, if_neg hne])

theorem tight_stacked {ts : List Text} (hne : ts ≠ []) (h : ∀ t ∈ ts, Tight t) :
    Tight (stacked ts) :=
  Framed.intercalate hne h

/-! ## Paragraphs -/

/-- A trimmed text without empty lines. -/
structure IsParagraph (t : Text) : Prop where
  trimmed : trim t = t
  solid : ∀ l ∈ lines t, l.text ≠ []

namespace IsParagraph

variable {t : Text} (h : IsParagraph t)
include h

theorem ne_nil : t ≠ [] := by
  rintro rfl
  exact h.solid _ (List.mem_singleton_self _) rfl

theorem tight : Tight t :=
  .of_trim_eq h.ne_nil h.trimmed

theorem isEmptyLine_of_mem {p : Text} (hp : p ∈ pieces '\n' t) : isEmptyLine p = false := by
  obtain ⟨l, hl, htext⟩ := exists_mem_lines hp
  rw [isEmptyLine, ← htext, decide_eq_false_iff_not]
  exact h.solid l hl

theorem paragraphs_eq : paragraphs t = [⟨t⟩] := by
  have hruns : runs (pieces '\n' t) = [pieces '\n' t] :=
    List.splitOnP_eq_singleton fun _ hp => h.isEmptyLine_of_mem hp
  have htext : runText? (pieces '\n' t) = some t := by
    rw [runText?, joinRows, intercalate_pieces, trim?, h.trimmed, if_neg h.ne_nil]
  rw [paragraphs_eq_runs, hruns, List.filterMap_cons_some htext]
  rfl

end IsParagraph

/-- No paragraph reaches over an empty line. -/
theorem paragraphs_append (u v : Text) :
    paragraphs (withLine u [] v) = paragraphs u ++ paragraphs v := by
  have hruns : runs (pieces '\n' u ++ [] :: pieces '\n' v) =
      runs (pieces '\n' u) ++ runs (pieces '\n' v) :=
    List.splitOnP_append_cons _ _ rfl
  rw [paragraphs_eq_runs, paragraphs_eq_runs, paragraphs_eq_runs,
    pieces_withLine u v List.not_mem_nil, hruns, List.filterMap_append, List.map_append]

theorem paragraphs_stacked {ps : List Text} (hne : ps ≠ []) (h : ∀ p ∈ ps, IsParagraph p) :
    paragraphs (stacked ps) = ps.map .mk := by
  induction ps with
  | nil => exact absurd rfl hne
  | cons p ps ih =>
    rw [List.forall_mem_cons] at h
    by_cases hps : ps = []
    · rw [hps, stacked_singleton, h.1.paragraphs_eq]
      rfl
    · rw [stacked_cons p hps, paragraphs_append, h.1.paragraphs_eq, ih hps h.2]
      rfl

/-! ## Tests of stacked texts -/

/-- Across the empty line above a trimmed text the test finds nothing. -/
def Splits (test : Text → Bool) : Prop :=
  ∀ u v, Tight v → test (withLine u [] v) = (test u || test v)

theorem Splits.stacked {test : Text → Bool} (htest : Splits test) {ts : List Text} (hne : ts ≠ [])
    (h : ∀ t ∈ ts, Tight t) : test (stacked ts) = ts.any test := by
  induction ts with
  | nil => exact absurd rfl hne
  | cons t ts ih =>
    rw [List.forall_mem_cons] at h
    by_cases hts : ts = []
    · rw [hts, stacked_singleton, List.any_cons, List.any_nil, Bool.or_false]
    · rw [stacked_cons t hts, htest t _ (tight_stacked hts h.2), ih hts h.2, List.any_cons]

/-- A test of the lines that does not hold of an empty one. -/
theorem splits_any_lines {p : Line → Bool} (hp : ∀ l : Line, l.text = [] → p l = false) :
    Splits fun t => (lines t).any p := by
  intro u v _
  simp only [lines_withLine u v List.not_mem_nil, List.any_append, List.any_cons,
    hp (Line.ofPiece [] List.not_mem_nil) rfl, Bool.false_or]

theorem splits_any_paragraphs (p : Paragraph → Bool) : Splits fun t => (paragraphs t).any p := by
  intro u v _
  simp only [paragraphs_append, List.any_append]

end CommitStyle.Text
