import CommitStyle.Proofs.Linter.Alike
import CommitStyle.Proofs.Message.BlankLine
import CommitStyle.Proofs.Message.Footer

/-!
# Blank lines and the rules

An empty line of the body may be filled with spaces and tabs. The rules on the lines above and below
the body test for blank characters and see no difference. The rule on footer notes takes the line
for one that follows a note, and the rule on paragraphs reads the paragraphs on both sides of it as
one (`Config.evaluate_filled_line`).
-/

namespace CommitStyle

open Text

namespace Message

/-! ## Rules on the lines of the body -/

/-- Of a line, the rule on the line above the footer sees whether it is a note and whether it is
blank. -/
theorem lacksBlankAboveFooter_congr {m n : Message}
    (h : m.bodyLines.map (fun l => (l.isFooterNote, l.text.isBlank)) =
      n.bodyLines.map fun l => (l.isFooterNote, l.text.isBlank)) :
    m.lacksBlankAboveFooter = n.lacksBlankAboveFooter := by
  have heq (m : Message) : m.lacksBlankAboveFooter =
      (let ls := m.bodyLines.map fun l => (l.isFooterNote, l.text.isBlank)
      !(ls.dropWhile fun l => !l.1).isEmpty &&
        ((ls.takeWhile fun l => !l.1).getLast?.map fun l => !l.2).getD false) := by
    unfold lacksBlankAboveFooter footerLines
    simp [List.dropWhile_map, List.takeWhile_map, Function.comp_def]
  rw [heq, heq, h]

/-! ## A line of the body -/

section Line

variable (r : Regions) {u l v : Text} (hb : Tight (withLine u l v)) (header : Text)
include hb

/-- The line below the header is not the one between the two parts. -/
theorem lacksBlankBelowHeader_line :
    lacksBlankBelowHeader ⟨r.raw (withLine u l v), header⟩ =
      ((lines (r.gap.tail ++ u)).head?.map fun l => !l.text.isBlank).getD false := by
  obtain ⟨g, hg, htrim⟩ := r.exists_trim_raw hb
  have hlines : lines (r.raw (withLine u l v)).trim =
      Line.ofPiece r.title r.title_unbroken :: (lines (g ++ u) ++ lines (l ++ '\n' :: v)) := by
    rw [htrim, lines_append, lines_of_not_mem r.title_unbroken, append_withLine, withLine,
      lines_append, List.singleton_append]
  obtain ⟨first, rest, hfirst⟩ := List.exists_cons_of_ne_nil (lines_ne_nil (g ++ u))
  unfold lacksBlankBelowHeader hasBody
  rw [r.body_raw hb, hlines, hg, List.tail_cons, hfirst]
  rfl

theorem bodyLines_line (hl : '\n' ∉ l) : bodyLines ⟨r.raw (withLine u l v), header⟩ =
    lines u ++ Line.ofPiece l hl :: lines v := by
  rw [r.bodyLines_raw hb, lines_withLine u v hl]

end Line

/-! ## A blank line in place of an empty one -/

section Fill

variable {u e f v : Text} (he : isEmptyLine e = true) (hf : IsBlankLine f) {m n : Message}
  (hm : m.bodyLines = lines u ++ Line.ofPiece e (feed_not_mem_of_isEmptyLine he) :: lines v)
  (hn : n.bodyLines = lines u ++ Line.ofPiece f hf.unbroken :: lines v)

theorem isBlank_ofPiece {p : Text} (h : '\n' ∉ p) (hp : p.isBlank = true) :
    (Line.ofPiece p h).text.isBlank = true :=
  List.all_eq_true.2 fun _ hc => List.all_eq_true.1 hp _ (mem_of_mem_dropReturn hc)

include hm hn

theorem lacksBlankAboveFooter_fill : m.lacksBlankAboveFooter = n.lacksBlankAboveFooter := by
  have hbe := isBlank_ofPiece (feed_not_mem_of_isEmptyLine he) (isBlank_of_isEmptyLine he)
  have hbf := isBlank_ofPiece hf.unbroken hf.blank
  refine lacksBlankAboveFooter_congr ?_
  rw [hm, hn, List.map_append, List.map_append, List.map_cons, List.map_cons, hbe, hbf,
    isFooterNote_of_isBlank hbe, isFooterNote_of_isBlank hbf]

/-- A line that is not empty may not follow a note, whatever is in it. -/
theorem hasMisplacedNote_fill :
    n.hasMisplacedNote = (m.hasMisplacedNote || (lines u).any Line.isFooterNote) := by
  have hempty (seen : Bool) : misplacedFrom seen
      (Line.ofPiece e (feed_not_mem_of_isEmptyLine he) :: lines v) =
        misplacedFrom seen (lines v) := by
    rw [misplacedFrom, if_pos ((isEmptyLine_iff_text _).1 he)]
  have hfull (seen : Bool) : misplacedFrom seen (Line.ofPiece f hf.unbroken :: lines v) =
      (seen || misplacedFrom seen (lines v)) := by
    have htext : (Line.ofPiece f hf.unbroken).text ≠ [] := fun h =>
      Bool.eq_false_iff.1 hf.nonempty ((isEmptyLine_iff_text _).2 h)
    rw [misplacedFrom, if_neg htext, isFooterNote_of_isBlank (isBlank_ofPiece _ hf.blank)]
    simp
  unfold hasMisplacedNote
  rw [hm, hn, misplacedFrom_append, misplacedFrom_append, hempty, hfull, Bool.false_or,
    Bool.or_assoc, Bool.or_comm (misplacedFrom _ (lines v))]

end Fill

/-- Spaces and tabs in an empty line make a blank line. -/
theorem isBlankLine_append {run e : Text} (hne : run ≠ [])
    (hrun : ∀ c ∈ run, isSpaceOrTab c = true) (he : isEmptyLine e = true) :
    IsBlankLine (run ++ e) := by
  have hspace {c : Char} (hc : c ∈ run) : c = ' ' ∨ c = '\t' := by
    simpa [isSpaceOrTab] using hrun c hc
  refine ⟨?_, ?_, ?_⟩
  · obtain ⟨c, run, rfl⟩ := List.exists_cons_of_ne_nil hne
    rw [← Bool.not_eq_true, isEmptyLine_iff]
    rcases hspace List.mem_cons_self with rfl | rfl <;> simp
  · rw [List.mem_append, not_or]
    refine ⟨fun hmem => ?_, feed_not_mem_of_isEmptyLine he⟩
    rcases hspace hmem with h | h <;> cases h
  · have hblank : run.isBlank = true := List.all_eq_true.2 fun c hc => by
      rcases hspace hc with rfl | rfl <;> rfl
    rw [isBlank_append, hblank, isBlank_of_isEmptyLine he]
    rfl

end Message

namespace Config

open Message

theorem sameVerdict_iff (c : Config) {r : Rule} {m n : Message} (hheader : m.header = n.header)
    {a b : Bool} (hm : r.offends c.options m = .ok a) (hn : r.offends c.options n = .ok b) :
    c.SameVerdict r m n ↔ a = b := by
  have hdiagnostic := Rule.diagnostic_congr hheader r c.options
  unfold SameVerdict
  rw [evaluate_eq, evaluate_eq, hm, hn]
  constructor
  · rintro ⟨v, hv, hv'⟩
    have hpassed := congrArg Verdict.passed (Except.ok.inj (hv.trans hv'.symm))
    exact Bool.bne_right_inj.1 hpassed
  · rintro rfl
    exact ⟨_, rfl, by simp only [Except.map, verdictOf, hdiagnostic]⟩

/-- An empty line of the body is filled with spaces and tabs. The rules on the lines above and below
the body give the same verdict as before. The rule on footer notes takes the line for one that may
not follow a note. The rule on paragraphs reads the same paragraphs, or two of them as one. -/
theorem evaluate_filled_line (c : Config) {m n : Message} {above e below run : Text}
    (hbody : m.body = some (withLine above e below)) (he : isEmptyLine e = true)
    (hne : run ≠ []) (hrun : ∀ c ∈ run, isSpaceOrTab c = true)
    (hn : n = m.withBody (withLine above (run ++ e) below)) :
    headerOf n.raw = headerOf m.raw ∧ n.body = some (withLine above (run ++ e) below) ∧
      c.SameVerdict .bodyLeadingBlank m n ∧ c.SameVerdict .footerLeadingBlank m n ∧
      (c.SameVerdict .footerNotesMisplacement m n ↔
        ((lines above).any Line.isFooterNote = true → m.hasMisplacedNote = true)) ∧
      (c.SameVerdict .bodyProse m n ↔
        m.prose.any paragraphOffends = n.prose.any paragraphOffends) ∧
      (n.prose = m.prose ∨ JoinedBy (run ++ e) m.prose n.prose) := by
  obtain ⟨raw, header⟩ := m
  obtain ⟨r, hraw, htight⟩ := exists_regions hbody
  obtain rfl : raw = r.raw (withLine above e below) := hraw
  rw [r.withBody_raw htight] at hn
  subst hn
  have hline := isBlankLine_append hne hrun he
  have htight' := htight.replaceLine (run ++ e)
  have hm := bodyLines_line r htight header (feed_not_mem_of_isEmptyLine he)
  have hn := bodyLines_line r htight' header hline.unbroken
  have hheader : (Message.mk (r.raw (withLine above e below)) header).header =
      (Message.mk (r.raw (withLine above (run ++ e) below)) header).header := rfl
  refine ⟨?_, r.body_raw htight' header, ?_, ?_, ?_, ?_, ?_⟩
  · rw [r.headerOf_raw htight, r.headerOf_raw htight']
  · rw [c.sameVerdict_iff hheader rfl rfl, lacksBlankBelowHeader_line r htight,
      lacksBlankBelowHeader_line r htight']
  · rw [c.sameVerdict_iff hheader rfl rfl, lacksBlankAboveFooter_fill he hline hm hn]
  · rw [c.sameVerdict_iff hheader rfl rfl, hasMisplacedNote_fill he hline hm hn]
    cases hasMisplacedNote ⟨r.raw (withLine above e below), header⟩ <;> simp
  · rw [c.sameVerdict_iff hheader rfl rfl, hasBadProse_eq, hasBadProse_eq]
  · rw [r.prose_raw htight, r.prose_raw htight', append_withLine, append_withLine]
    exact prose_withLine _ _ he hline

/-- A space and a tab in the line between two paragraphs, whose line break has a carriage return. -/
theorem evaluate_filled_line_tab :
    ∃ m n, parse "core: x\n\nIt reads.\r\n\r\nIt fails.\n".toList = .ok m ∧
      n = m.withBody (withLine "It reads.\r".toList " \t\r".toList "It fails.".toList) ∧
      n.raw = "core: x\n\nIt reads.\r\n \t\r\nIt fails.\n".toList ∧
      SameVerdict {} .bodyLeadingBlank m n ∧ SameVerdict {} .footerNotesMisplacement m n := by
  have hparse : parse "core: x\n\nIt reads.\r\n\r\nIt fails.\n".toList =
      .ok ⟨"core: x\n\nIt reads.\r\n\r\nIt fails.\n".toList, "core: x".toList⟩ :=
    eq_ok_of_toOption (by decide)
  have hbody : body ⟨"core: x\n\nIt reads.\r\n\r\nIt fails.\n".toList, "core: x".toList⟩ =
      some (withLine "It reads.\r".toList "\r".toList "It fails.".toList) := by decide
  obtain ⟨-, -, hblank, -, hnote, -⟩ := evaluate_filled_line {} hbody (by decide)
    (show " \t".toList ≠ [] by decide) (List.all_eq_true.1 (by decide)) rfl
  exact ⟨_, _, hparse, rfl, by decide, hblank, hnote.2 (by decide)⟩

/-- A space in the line below a paragraph hides the small letter of the next one, and in the line
below a footer note it makes the rule on notes fail. -/
theorem filled_line_changes_verdicts :
    (∃ m n, parse "core: x\n\nIt reads.\n\nit fails.".toList = .ok m ∧
      parse "core: x\n\nIt reads.\n \nit fails.".toList = .ok n ∧
      m.body = some (withLine "It reads.".toList [] "it fails.".toList) ∧
      n = m.withBody (withLine "It reads.".toList [' '] "it fails.".toList) ∧
      (evaluate {} .bodyProse m).map Verdict.passed = .ok false ∧
      (evaluate {} .bodyProse n).map Verdict.passed = .ok true) ∧
    ∃ m n, parse "core: x\n\nFixes #1\n\nFixes #2".toList = .ok m ∧
      parse "core: x\n\nFixes #1\n \nFixes #2".toList = .ok n ∧
      m.body = some (withLine "Fixes #1".toList [] "Fixes #2".toList) ∧
      n = m.withBody (withLine "Fixes #1".toList [' '] "Fixes #2".toList) ∧
      (evaluate {} .footerNotesMisplacement m).map Verdict.passed = .ok true ∧
      (evaluate {} .footerNotesMisplacement n).map Verdict.passed = .ok false := by
  refine ⟨⟨⟨"core: x\n\nIt reads.\n\nit fails.".toList, "core: x".toList⟩,
    ⟨"core: x\n\nIt reads.\n \nit fails.".toList, "core: x".toList⟩, ?_⟩,
    ⟨"core: x\n\nFixes #1\n\nFixes #2".toList, "core: x".toList⟩,
    ⟨"core: x\n\nFixes #1\n \nFixes #2".toList, "core: x".toList⟩, ?_⟩
  · decide +kernel
  · decide +kernel

end Config
end CommitStyle
