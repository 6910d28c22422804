import CommitStyle.Body
import CommitStyle.Proofs.Text.Cut

/-!
# Footers in their place

The footer starts at the first footer note (`Message.CutAtNote`), and there is one such cut of the
lines of a body. The rules on footer notes look for it by scans of their own and find the same lines
(`Message.not_hasMisplacedNote_iff`, `Message.lacksBlankAboveFooter_iff`).

The lines are parted if the footer notes stand below all other lines, with an empty line right above
them (`Message.Parted`). Then the footer is the notes (`Message.Parted.footerLines_eq`), and no rule
on the place of the footer objects.
-/

namespace CommitStyle

namespace Message

/-! ## The first footer note -/

/-- The lines are cut above the first footer note, or below all of them if there is none. -/
structure CutAtNote (ls above footer : List Line) : Prop where
  eq : ls = above ++ footer
  plain : ∀ l ∈ above, l.isFooterNote = false
  noted : ∀ l ∈ footer.head?, l.isFooterNote = true

theorem cutAtNote_walk (ls : List Line) : CutAtNote ls (ls.takeWhile fun l => !l.isFooterNote)
    (ls.dropWhile fun l => !l.isFooterNote) where
  eq := List.takeWhile_append_dropWhile.symm
  plain l hl := by simpa using List.mem_takeWhile_imp hl
  noted l hl := by simpa using stop_dropWhile ls l hl

theorem cutAtNote_footerLines (m : Message) :
    CutAtNote m.bodyLines (m.bodyLines.takeWhile fun l => !l.isFooterNote) m.footerLines :=
  cutAtNote_walk m.bodyLines

namespace CutAtNote

variable {ls above footer : List Line} (h : CutAtNote ls above footer)
include h

/-- There is one cut only. -/
theorem dropWhile_eq : (ls.dropWhile fun l => !l.isFooterNote) = footer := by
  rw [h.eq]
  exact dropWhile_append_of_stop (fun l hl => by simp [h.plain l hl])
    fun l hl => by simp [h.noted l hl]

/-- A line right above the footer is the last one above the cut. -/
theorem above_eq {front : List Line} {l : Line} (hlines : ls = front ++ l :: footer) :
    above = front ++ [l] := by
  refine List.append_cancel_right (h.eq.symm.trans ?_)
  rw [hlines, List.append_assoc, List.singleton_append]

end CutAtNote

/-! ## Walks over the lines -/

theorem isFooterNote_of_isBlank {l : Line} (h : l.text.isBlank = true) :
    l.isFooterNote = false := by
  unfold Line.isFooterNote Line.isReference Line.isCoAuthor Line.isClosing Line.coAuthorStart
  cases ht : l.text with
  | nil => rfl
  | cons c rest =>
    have hc : CommitStyle.isBlank c = true := List.all_eq_true.1 h c (ht ▸ List.mem_cons_self)
    have hbracket : '[' ≠ c := by rintro rfl; cases hc
    have hC : 'C' ≠ c := by rintro rfl; cases hc
    have hF : 'F' ≠ c := by rintro rfl; cases hc
    simp [hbracket.symm, hC, hF, List.isPrefixOf]

/-- A step of the walk : an empty line is no note, so it passes like any other line. -/
theorem misplacedFrom_cons (seen : Bool) (l : Line) (rest : List Line) :
    misplacedFrom seen (l :: rest) = ((seen && !l.text.isEmpty && !l.isFooterNote) ||
      misplacedFrom (seen || l.isFooterNote) rest) := by
  rw [misplacedFrom]
  split
  · next hempty =>
    rw [isFooterNote_of_isBlank (by rw [hempty]; rfl), hempty]
    simp
  · next hsome =>
    rw [List.isEmpty_eq_false_iff.2 hsome]
    cases seen <;> cases l.isFooterNote <;> rfl

theorem misplacedFrom_append (a b : List Line) : ∀ seen : Bool, misplacedFrom seen (a ++ b) =
    (misplacedFrom seen a || misplacedFrom (seen || a.any Line.isFooterNote) b) := by
  induction a with
  | nil => simp [misplacedFrom]
  | cons l a ih =>
    intro seen
    rw [List.cons_append, misplacedFrom_cons, misplacedFrom_cons, ih, List.any_cons]
    simp only [Bool.or_assoc]

/-- Before the first note nothing is misplaced. -/
theorem misplacedFrom_plain {above : List Line} (h : ∀ l ∈ above, l.isFooterNote = false) :
    misplacedFrom false above = false := by
  induction above with
  | nil => rfl
  | cons l above ih =>
    rw [List.forall_mem_cons] at h
    rw [misplacedFrom_cons, h.1, Bool.or_false, ih h.2]
    rfl

/-- Behind a note everything is misplaced that is neither a note nor empty. -/
theorem not_misplacedFrom_true_iff {ls : List Line} : misplacedFrom true ls = false ↔
    ∀ l ∈ ls, l.text ≠ [] → l.isFooterNote = true := by
  induction ls with
  | nil => simp [misplacedFrom]
  | cons l ls ih =>
    rw [misplacedFrom_cons, Bool.true_or, Bool.or_eq_false_iff, ih, List.forall_mem_cons]
    refine and_congr_left fun _ => ?_
    cases l.isFooterNote <;> simp

/-- The first note of the footer may as well have been seen before it. -/
theorem CutAtNote.misplacedFrom_eq {ls above footer : List Line} (h : CutAtNote ls above footer) :
    misplacedFrom false ls = misplacedFrom true footer := by
  have hplain : above.any Line.isFooterNote = false :=
    List.any_eq_false.2 fun l hl => by simp [h.plain l hl]
  rw [h.eq, misplacedFrom_append, misplacedFrom_plain h.plain, hplain]
  cases footer with
  | nil => rfl
  | cons l footer =>
    rw [misplacedFrom_cons, misplacedFrom_cons, h.noted l rfl]
    simp

theorem not_hasMisplacedNote_iff {m : Message} : m.hasMisplacedNote = false ↔
    ∀ l ∈ m.footerLines, l.text ≠ [] → l.isFooterNote = true := by
  unfold hasMisplacedNote
  rw [m.cutAtNote_footerLines.misplacedFrom_eq]
  exact not_misplacedFrom_true_iff

theorem lacksBlankAboveFooter_iff {m : Message} : m.lacksBlankAboveFooter = true ↔
    m.footerLines ≠ [] ∧
      ∃ front l, m.bodyLines = front ++ l :: m.footerLines ∧ l.text.isBlank = false := by
  have hcut := m.cutAtNote_footerLines
  unfold lacksBlankAboveFooter
  rw [Bool.and_eq_true, Bool.not_eq_true', List.isEmpty_eq_false_iff]
  refine and_congr_right fun _ => ⟨fun habove => ?_, ?_⟩
  · cases hlast : (m.bodyLines.takeWhile fun l => !l.isFooterNote).getLast? with
    | none => simp [hlast] at habove
    | some l =>
      obtain ⟨front, hfront⟩ := List.getLast?_eq_some_iff.1 hlast
      refine ⟨front, l, ?_, by simpa [hlast] using habove⟩
      rw [hcut.eq, hfront, List.append_assoc, List.singleton_append]
  · rintro ⟨front, l, hlines, hl⟩
    rw [hcut.above_eq hlines, List.getLast?_concat]
    simpa using hl

/-! ## Footers below an empty line -/

/-- Footer notes stand below lines that are none, with an empty line right above them if there is
any line above. -/
structure Parted (ls above notes : List Line) : Prop where
  eq : ls = above ++ notes
  plain : ∀ l ∈ above, l.isFooterNote = false
  noted : ∀ l ∈ notes, l.isFooterNote = true
  gap : notes ≠ [] → ∀ l ∈ above.getLast?, l.text = []

namespace Parted

variable {m : Message} {above notes : List Line}

theorem cutAtNote (h : Parted m.bodyLines above notes) : CutAtNote m.bodyLines above notes :=
  ⟨h.eq, h.plain, fun l hl => h.noted l (List.mem_of_head? hl)⟩

theorem footerLines_eq (h : Parted m.bodyLines above notes) : m.footerLines = notes :=
  h.cutAtNote.dropWhile_eq

theorem not_hasMisplacedNote (h : Parted m.bodyLines above notes) : m.hasMisplacedNote = false := by
  rw [not_hasMisplacedNote_iff, h.footerLines_eq]
  exact fun l hl _ => h.noted l hl

theorem not_lacksBlankAboveFooter (h : Parted m.bodyLines above notes) :
    m.lacksBlankAboveFooter = false := by
  rw [← Bool.not_eq_true, lacksBlankAboveFooter_iff, h.footerLines_eq]
  rintro ⟨hne, front, l, hlines, hl⟩
  have hlast : above.getLast? = some l := by
    rw [h.cutAtNote.above_eq hlines, List.getLast?_concat]
  have hempty : l.text = [] := h.gap hne l hlast
  rw [hempty] at hl
  cases hl

end Parted

/-! ## References -/

/-- No number begins where there is no opening bracket. -/
theorem bracketedNumbers_append {a : Text} (h : '[' ∉ a) (b : Text) :
    bracketedNumbers (a ++ b) = bracketedNumbers b := by
  induction a with
  | nil => rfl
  | cons c a ih =>
    rw [List.mem_cons, not_or] at h
    rw [List.cons_append, bracketedNumbers, if_neg fun hc => h.1 hc.1.symm, ih h.2]

theorem bracketedNumbers_eq_nil {t : Text} (h : '[' ∉ t) : bracketedNumbers t = [] := by
  have happend := bracketedNumbers_append h []
  rwa [List.append_nil] at happend

theorem not_hasUnmatchedReference {m : Message} (h : ∀ l ∈ m.bodyLines, '[' ∉ l.text) :
    m.hasUnmatchedReference = false := by
  have hnone {p : Line → Bool} :
      ((m.bodyLines.filter p).flatMap fun l => bracketedNumbers l.text) = [] :=
    List.flatMap_eq_nil_iff.2 fun l hl => bracketedNumbers_eq_nil (h l (List.mem_filter.1 hl).1)
  unfold hasUnmatchedReference citedNumbers listedNumbers
  rw [hnone, hnone]
  rfl

end Message
end CommitStyle
