import CommitStyle.Proofs.Linter.Report
import CommitStyle.Proofs.Message.Footer
import CommitStyle.Proofs.Message.Guideline
import CommitStyle.Proofs.Rule.CodeJoin
import CommitStyle.Proofs.Text.Sentence

/-!
# Messages by the guidelines are clean

With the default configuration no rule finds an offence in a message of the grammar
`Guideline.Commit`. The header rules look at a title of small letters with a single colon
(`Guideline.Title`). The rules on text and lines look at phrases with empty lines between them. The
rules on paragraphs and the footer look at the blocks of the body, in which the closing lines come
last (`Guideline.Commit.exists_parted`). `Config.lint_guideline` puts the rules together.
-/

namespace CommitStyle

open Text

/-! ## Header -/

namespace Guideline.Title

variable (t : Title)

theorem colon_not_mem_area : ':' ∉ t.area := fun h =>
  absurd (t.small ':' h) (by decide)

theorem takeWhile_area : t.text.takeWhile (· ≠ ':') = t.area :=
  takeWhile_ne_append t.colon_not_mem_area _

theorem dropWhile_area : t.text.dropWhile (· ≠ ':') = ':' :: ' ' :: t.subject :=
  dropWhile_ne_append t.colon_not_mem_area _

theorem colon_mem : ':' ∈ t.text := by
  simp [text]

theorem afterArea?_text : Header.afterArea? t.text = some (' ' :: t.subject) := by
  obtain ⟨c, rest, harea⟩ := List.exists_cons_of_ne_nil t.named
  unfold Header.afterArea?
  rw [t.takeWhile_area, t.dropWhile_area, harea]

/-- Nothing is found in the area that has a character other than a small letter. -/
theorem not_areaContains {pattern : Text} {c : Char} (hc : c ∈ pattern)
    (hsmall : c.isLower = false) : Header.areaContains pattern t.text = false := by
  unfold Header.areaContains Header.area?
  rw [if_pos t.colon_mem, t.takeWhile_area, Option.map_some, Option.getD_some,
    ← Bool.not_eq_true, contains_iff]
  intro hin
  simp [t.small c (hin.subset hc)] at hsmall

theorem not_isTooLong : Header.isTooLong 50 t.text = false := by
  have hlength : ¬50 < t.text.length := Nat.not_lt.2 t.short
  unfold Header.isTooLong
  rw [decide_eq_false hlength, Bool.and_false]

theorem not_lacksColonSpace : Header.lacksColonSpace t.text = false := by
  unfold Header.lacksColonSpace
  rw [t.afterArea?_text]
  rfl

theorem not_isBareWip : Header.isBareWip t.text = false := by
  have hcolon : ':' ∈ t.text.lowercase := mem_lowercase (by decide) (by decide) t.colon_mem
  unfold Header.isBareWip
  rw [beq_eq_false_iff_ne]
  intro hwip
  rw [hwip] at hcolon
  exact absurd hcolon (by decide)

theorem hasType : Header.hasType t.text = true := by
  have hcolon : isWordChar ':' = false := by decide
  have hword : ∀ c ∈ t.area, isWordChar c = true := fun c hc => isWordChar_of_isLower (t.small c hc)
  have htake : t.text.takeWhile isWordChar = t.area := takeWhile_append_cons_of_pos hword hcolon _
  have hdrop : t.text.dropWhile isWordChar = ':' :: ' ' :: t.subject :=
    dropWhile_append_cons_of_pos hword hcolon _
  unfold Header.hasType
  rw [htake, hdrop]
  simp [t.named, Header.startsSubject, List.isPrefixOf]

theorem not_hasCapitalSubject : Header.hasCapitalSubject t.text = .ok false := by
  have hframed := t.phrase.framed
  have hblank (c : Char) (hc : c.isLower = true) : isBlank c = false :=
    Guideline.isBlank_of_isGraphic c (Guideline.isGraphic_of_isLower hc)
  have htrim : trim (' ' :: t.subject) = t.subject :=
    (trim_blank_append (a := [' ']) rfl _).trans (hframed.trim hblank)
  obtain ⟨c, hc, hsmall⟩ := hframed.head
  obtain ⟨rest, hrest⟩ := List.head?_eq_some_iff.1 hc
  have hspace : decide (c ≠ ' ') = true := by
    rw [decide_eq_true_iff]
    rintro rfl
    exact absurd hsmall (by decide)
  have hword : firstWord t.subject = c :: firstWord rest := by
    rw [hrest]
    exact List.takeWhile_cons_of_pos hspace
  have hbreak : '\n' ∉ firstWord t.subject := fun hmem =>
    Laid.not_mem_phrase hblank t.phrase (by decide) (by decide) ((prefix_firstWord _).subset hmem)
  unfold Header.hasCapitalSubject
  rw [t.afterArea?_text]
  simp only [htrim, Word.ofText?_firstWord, dif_neg hbreak]
  split
  · simp [Except.map, Word.startsSentence, hword, isUppercase_of_isLower hsmall]
  · rfl

theorem not_isBracketed : Header.isBracketed t.text = false := by
  obtain ⟨c, rest, harea⟩ := List.exists_cons_of_ne_nil t.named
  have hc : c ≠ '[' := by
    rintro rfl
    exact absurd (t.small '[' (harea ▸ List.mem_cons_self)) (by decide)
  unfold text Header.isBracketed
  rw [harea]
  split
  · next heq => exact absurd (List.cons.inj heq).1 hc
  · rfl

theorem not_endsInStop : (t.text.getLast? == some '.') = false := by
  obtain ⟨c, hc, hsmall⟩ := t.phrase.framed.last
  have hsplit : t.text = (t.area ++ [':', ' ']) ++ t.subject := by simp [text]
  have hlast : t.text.getLast? = some c := by
    rw [hsplit, List.getLast?_append, hc, Option.some_or]
  rw [hlast, beq_eq_false_iff_ne]
  rintro h
  rw [Option.some.inj h] at hsmall
  exact absurd hsmall (by decide)

end Guideline.Title

/-! ## Lines of the body -/

theorem Line.isFooterNote_of_closing (g : Guideline.Closing) {l : Line} (h : l.text = g.text) :
    l.isFooterNote = true := by
  have hclosing : l.isClosing = true := by
    unfold Line.isClosing
    rw [h, Guideline.Closing.text]
    rcases g.known with hverb | hverb <;> rw [hverb] <;> rfl
  unfold Line.isFooterNote
  rw [hclosing, Bool.or_true]

theorem Line.not_isFooterNote_of_prose (p : Guideline.Prose) {l : Line} (h : l.text ∈ p.lines) :
    l.isFooterNote = false := by
  have hmark (c : Char) (hspace : c ≠ ' ') (hc : Guideline.isGraphic c = false) : c ∉ l.text :=
    (p.isPhrase h).not_mem hspace hc
  have hreference : l.isReference = false := by
    unfold Line.isReference
    rw [beq_eq_false_iff_ne.2 fun hhead =>
      hmark '[' (by decide) (by decide) (List.mem_of_mem_head? hhead), Bool.false_and]
  have hauthor : l.isCoAuthor = false := Bool.eq_false_iff.2 fun hprefix =>
    hmark '-' (by decide) (by decide)
      ((List.isPrefixOf_iff_prefix.1 hprefix).subset (show '-' ∈ coAuthorStart by decide))
  have hclosing : l.isClosing = false := Bool.eq_false_iff.2 fun hverb => by
    rcases Bool.or_eq_true_iff.1 hverb with hverb | hverb
    · exact (p.plain _ h).1 (List.isPrefixOf_iff_prefix.1 hverb)
    · exact (p.plain _ h).2 (List.isPrefixOf_iff_prefix.1 hverb)
  unfold Line.isFooterNote
  rw [hreference, hauthor, hclosing]
  rfl

/-! ## Paragraphs -/

theorem Message.paragraphOffends_eq_false {p : Paragraph}
    (hhead : ∀ c ∈ p.text.head?, isLowercase c = false)
    (hend : p.endsSentence = true ∨ ∃ l ∈ p.lines.getLast?, l.isFooterNote = true) :
    paragraphOffends p = false := by
  have hsmall : (p.text.head?.map isLowercase).getD false = false := by
    cases hc : p.text.head? with
    | none => rfl
    | some c => exact hhead c hc
  unfold paragraphOffends
  simp only [hsmall, Bool.false_and, Bool.false_or]
  rcases hend with hend | ⟨l, hl, hnote⟩
  · simp [hend]
  · simp [Option.mem_def.1 hl, hnote]

namespace Guideline.Commit

open Message

variable (g : Commit)

theorem exists_parted : ∃ above notes, Parted g.message.bodyLines above notes ∧
    (∀ l ∈ above, l.text = [] ∨ ∃ p ∈ g.prose, l.text ∈ p.lines) ∧
    ∀ l ∈ notes, ∃ closing ∈ g.closings, l.text = closing.text := by
  obtain ⟨texts, hbody, hplain, hgap⟩ := g.intercalate_blocks
  have hlines := g.map_text_bodyLines
  rw [hbody, List.map_eq_append_iff] at hlines
  obtain ⟨above, notes, heq, habove, hnotes⟩ := hlines
  have hprose (l : Line) (hl : l ∈ above) : l.text = [] ∨ ∃ p ∈ g.prose, l.text ∈ p.lines :=
    hplain l.text (habove ▸ List.mem_map_of_mem hl)
  have hclosing (l : Line) (hl : l ∈ notes) : ∃ closing ∈ g.closings, l.text = closing.text := by
    obtain ⟨closing, hmem, htext⟩ := List.mem_map.1 (hnotes ▸ List.mem_map_of_mem hl)
    exact ⟨closing, hmem, htext.symm⟩
  refine ⟨above, notes, ⟨heq, fun l hl => ?_, fun l hl => ?_, fun hne l hl => ?_⟩, hprose, hclosing⟩
  · rcases hprose l hl with hempty | ⟨p, -, hmem⟩
    · exact isFooterNote_of_isBlank (by rw [hempty]; rfl)
    · exact Line.not_isFooterNote_of_prose p hmem
  · obtain ⟨closing, -, htext⟩ := hclosing l hl
    exact Line.isFooterNote_of_closing closing htext
  · refine hgap (fun hnil => hne ?_) l.text ?_
    · rwa [hnil, List.map_nil, List.map_eq_nil_iff] at hnotes
    · rw [← habove, List.getLast?_map, Option.mem_def.1 hl]
      rfl

/-- A line of the body is empty, or it is a line of a paragraph or a closing line. -/
theorem mem_bodyLines {l : Line} (h : l ∈ g.message.bodyLines) : l.text = [] ∨
    (∃ p ∈ g.prose, l.text ∈ p.lines) ∨ ∃ closing ∈ g.closings, l.text = closing.text := by
  obtain ⟨above, notes, hparted, habove, hnotes⟩ := g.exists_parted
  rw [hparted.eq, List.mem_append] at h
  rcases h with h | h
  · exact (habove l h).imp_right Or.inl
  · exact Or.inr (Or.inr (hnotes l h))

/-! ## Rules on the body -/

theorem not_paragraphOffends_prose (p : Prose) : paragraphOffends ⟨joinRows p.lines⟩ = false := by
  obtain ⟨c, rest, hhead, hcapital⟩ := p.capital
  obtain ⟨front, last, hlines, -⟩ := p.worded
  refine paragraphOffends_eq_false (fun d hd => ?_) (Or.inl ?_)
  · rw [hhead, List.head?_cons, Option.mem_some_iff] at hd
    exact hd ▸ isLowercase_of_isUpper hcapital
  · unfold CommitStyle.Paragraph.endsSentence joinRows
    rw [hlines, intercalate_append_singleton, ← List.append_assoc]
    rw [endsSentence_eq, endsInMark_concat _ (by decide), Bool.or_eq_true]
    exact Or.inr rfl

theorem not_paragraphOffends_closings (hne : g.closings ≠ []) :
    paragraphOffends ⟨joinRows (g.closings.map Closing.text)⟩ = false := by
  have hmem : g.closings.map Closing.text ∈ g.blocks := by
    unfold blocks
    rw [if_neg hne]
    exact List.mem_append_right _ (List.mem_singleton_self _)
  have hlines := g.laid_blocks.lines_joinRows isBlank_of_isGraphic hmem
  refine paragraphOffends_eq_false (fun d hd => ?_) (Or.inr ?_)
  · obtain ⟨closing, rest, hclosings⟩ := List.exists_cons_of_ne_nil hne
    obtain ⟨more, hmore⟩ := prefix_intercalate '\n' closing.text (rest.map Closing.text)
    rw [joinRows, hclosings, List.map_cons, ← hmore, Closing.text] at hd
    rcases closing.known with hverb | hverb <;> rw [hverb] at hd <;> cases hd <;> decide
  · obtain ⟨front, closing, hclosings⟩ := (List.eq_nil_or_concat' g.closings).resolve_left hne
    have hlast := congrArg List.getLast? hlines
    rw [hclosings, List.getLast?_map, List.getLast?_map, List.getLast?_concat,
      Option.map_some, Option.map_eq_some_iff] at hlast
    obtain ⟨l, hl, htext⟩ := hlast
    exact ⟨l, by rwa [← hclosings] at hl, Line.isFooterNote_of_closing closing htext⟩

theorem not_hasBadProse : g.message.hasBadProse = false := by
  unfold hasBadProse
  rw [g.bodyWithoutCode_message, g.body_message]
  by_cases hnil : g.blocks = []
  · rw [if_pos hnil]
    rfl
  rw [if_neg hnil, Option.map_some, Option.getD_some,
    g.laid_blocks.paragraphs_layout isBlank_of_isGraphic hnil, List.any_map,
    List.any_eq_false]
  intro b hb
  rw [Bool.not_eq_true]
  rcases g.mem_blocks hb with ⟨p, -, rfl⟩ | ⟨hne, rfl⟩
  · exact not_paragraphOffends_prose p
  · exact g.not_paragraphOffends_closings hne

theorem not_hasOverlongLine : g.message.hasOverlongLine 64 = false := by
  have hshort (l : Line) (hl : l ∈ g.message.bodyLines) : isOverlong 64 l = false := by
    unfold isOverlong
    rcases g.mem_bodyLines hl with hempty | ⟨p, -, hmem⟩ | ⟨closing, -, htext⟩
    · simp [hempty]
    · have := p.short l.text hmem
      simp [show ¬64 < l.text.length by omega]
    · rw [Line.isFooterNote_of_closing closing htext]
      simp
  unfold hasOverlongLine
  rw [g.bodyWithoutCode_message]
  unfold bodyLines at hshort
  cases hbody : g.message.body with
  | none => rfl
  | some body =>
    rw [hbody] at hshort
    exact any_outsideFences_eq_false hshort

theorem not_hasOverlongFooter : g.message.hasOverlongFooter 150 = false := by
  obtain ⟨above, notes, hparted, -, hnotes⟩ := g.exists_parted
  unfold hasOverlongFooter
  rw [hparted.footerLines_eq, List.any_eq_false]
  intro l hl
  obtain ⟨closing, -, htext⟩ := hnotes l hl
  have := closing.short
  rw [decide_eq_true_iff, htext, Closing.text]
  omega

theorem not_citesByNumber : g.message.citesByNumber = false := by
  unfold citesByNumber
  cases hraw : g.message.rawBody with
  | none => rfl
  | some body =>
    have hinfix := g.rawBody_infix hraw
    rw [Option.map_some, Option.getD_some,
      withoutCode_of_not_infix fun h => g.fence_not_infix_text (h.trans hinfix),
      ← Bool.not_eq_true, hasHashNumber_iff]
    rintro ⟨d, -, hin⟩
    exact g.not_mem_text (by decide) (by decide) (by decide)
      ((hin.trans hinfix).subset (List.mem_cons_self (a := '#')))

theorem not_hasUnmatchedReference : g.message.hasUnmatchedReference = false := by
  refine Message.not_hasUnmatchedReference fun l hl => ?_
  rcases g.mem_bodyLines hl with hempty | ⟨p, -, hmem⟩ | ⟨closing, -, htext⟩
  · rw [hempty]
    exact List.not_mem_nil
  · exact (p.isPhrase hmem).not_mem (by decide) (by decide)
  · rw [htext]
    exact closing.isPhrase.not_mem (by decide) (by decide)

/-! ## Rules on the whole text -/

theorem not_hasTooManySpaces : g.message.hasTooManySpaces = false := by
  unfold hasTooManySpaces
  rw [message, withoutCode_of_not_infix g.fence_not_infix_text, ← Bool.not_eq_true, hasWideGap_iff]
  rintro ⟨c, -, hin⟩
  exact g.laid.not_infix_spaces isBlank_of_isGraphic (List.cons_ne_nil _ _)
    ((List.suffix_cons c _).isInfix.trans hin)

theorem not_hasRaggedLine : g.message.hasRaggedLine = false := by
  have hlines := g.laid.lines_layout isBlank_of_isGraphic (List.cons_ne_nil _ _)
  have hblank (c : Char) (hc : isGraphic c = true) : isSpaceOrTab c = false := by
    rw [isSpaceOrTab, Bool.or_eq_false_iff, beq_eq_false_iff_ne, beq_eq_false_iff_ne]
    constructor
    · rintro rfl
      exact absurd hc (by decide)
    · rintro rfl
      exact absurd hc (by decide)
  unfold hasRaggedLine
  refine any_outsideFences_eq_false fun l hl => ?_
  have hmem : l.text ∈ [[]].intercalate ([g.title.text] :: g.blocks) :=
    hlines ▸ List.mem_map_of_mem hl
  unfold isRagged
  rcases g.laid.phrase_of_mem hmem with hempty | hphrase
  · rw [hempty]
    rfl
  · obtain ⟨c, hc, hpc⟩ := hphrase.framed.head
    obtain ⟨d, hd, hpd⟩ := hphrase.framed.last
    rw [hc, hd]
    simp [hblank c hpc, hblank d hpd]

theorem not_lacksBlankBelowHeader : g.message.lacksBlankBelowHeader = false := by
  have hlines := g.laid.lines_layout isBlank_of_isGraphic (List.cons_ne_nil _ _)
  have hsecond : ∀ l ∈ ([[]].intercalate ([g.title.text] :: g.blocks))[1]?, l = [] := by
    by_cases hnil : g.blocks = []
    · simp [hnil]
    · rw [List.intercalate_cons_of_ne_nil hnil]
      simp [eq_comm]
  rw [← hlines, List.getElem?_map] at hsecond
  unfold lacksBlankBelowHeader
  rw [message, g.trim_text]
  cases hl : (lines g.text)[1]? with
  | none => simp
  | some l =>
    have hempty : l.text = [] := hsecond l.text (by rw [text] at hl; simp [hl])
    simp [hempty, Text.isBlank]

end Guideline.Commit

/-! ## All rules -/

theorem Rule.offends_guideline (g : Guideline.Commit) (r : Rule) :
    r.offends ({} : Config).options g.message = .ok false := by
  cases r with
  | bodyLeadingBlank => exact congrArg Except.ok g.not_lacksBlankBelowHeader
  | bodyProse => exact congrArg Except.ok g.not_hasBadProse
  | bodySoftMaxLineLength => exact congrArg Except.ok g.not_hasOverlongLine
  | commitHashAlone => rfl
  | emptyWip => exact congrArg Except.ok g.title.not_isBareWip
  | footerLeadingBlank =>
    obtain ⟨above, notes, hparted, -⟩ := g.exists_parted
    exact congrArg Except.ok hparted.not_lacksBlankAboveFooter
  | footerMaxLineLength => exact congrArg Except.ok g.not_hasOverlongFooter
  | footerNotesMisplacement =>
    obtain ⟨above, notes, hparted, -⟩ := g.exists_parted
    exact congrArg Except.ok hparted.not_hasMisplacedNote
  | footerReferencesExistence => exact congrArg Except.ok g.not_hasUnmatchedReference
  | headerMaxLengthWithSuggestions => exact congrArg Except.ok g.title.not_isTooLong
  | preferSlashOverBackslash =>
    exact congrArg Except.ok (g.title.not_areaContains (List.mem_singleton_self '\\') (by decide))
  | properIssueRefs => exact congrArg Except.ok g.not_citesByNumber
  | subjectFullStop => exact congrArg Except.ok g.title.not_endsInStop
  | subjectLowercase => exact g.title.not_hasCapitalSubject
  | titleUppercase => exact if_pos g.title.colon_mem
  | tooManySpaces => exact congrArg Except.ok g.not_hasTooManySpaces
  | trailingWhitespace => exact congrArg Except.ok g.not_hasRaggedLine
  | typeEmpty => exact congrArg (fun b => Except.ok (!b)) g.title.hasType
  | typeSpaceAfterColon => exact congrArg Except.ok g.title.not_lacksColonSpace
  | typeSpaceAfterComma =>
    exact congrArg Except.ok (g.title.not_areaContains List.mem_cons_self (by decide))
  | typeSpaceBeforeParen =>
    exact congrArg Except.ok (g.title.not_areaContains List.mem_cons_self (by decide))
  | typeWithSquareBrackets => exact congrArg Except.ok g.title.not_isBracketed

namespace Config

/-- The report on a message by the guidelines has neither an error nor a warning. -/
theorem lint_guideline (g : Guideline.Commit) : ∃ m report, Message.parse g.text = .ok m ∧
    ({} : Config).lint m = .ok report ∧ report.errors = [] ∧ report.warnings = [] := by
  have hpassed (r : Rule) (v : Verdict) (hv : ({} : Config).evaluate r g.message = .ok v) :
      v.passed = true := by
    rw [evaluate_eq, Rule.offends_guideline] at hv
    cases hv
    rfl
  exact ⟨g.message, _, g.parse_text, lint_of_unbroken _ g.feed_not_mem_title,
    failures_eq_nil_of_passed _ _ hpassed .error, failures_eq_nil_of_passed _ _ hpassed .warning⟩

/-- A title, a paragraph of two lines and a closing line. -/
def guidelineSample : Guideline.Commit where
  title := {
    area := "core".toList
    subject := "add parser".toList
    named := by decide
    small := by simp
    phrase := ⟨["add".toList, "parser".toList], by decide, by simp, rfl⟩
    short := by decide }
  prose := [{
    lines := ["It reads".toList, "words.".toList]
    worded := ⟨["It reads".toList], "words".toList, rfl,
      List.forall_mem_singleton.2 ⟨["It".toList, "reads".toList], by decide, by simp, rfl⟩,
      ["words".toList], by decide, by simp, rfl⟩
    capital := ⟨'I', _, rfl, by decide⟩
    short := by decide
    plain := by decide }]
  closings := [{
    verb := "Fixes".toList
    number := "7".toList
    known := Or.inl rfl
    numbered := by decide
    digits := by simp
    short := by decide }]

theorem lint_guideline_sample : ∃ m report, Message.parse
    "core: add parser\n\nIt reads\nwords.\n\nFixes https://example.com/7".toList = .ok m ∧
      ({} : Config).lint m = .ok report ∧ report.errors = [] ∧ report.warnings = [] :=
  lint_guideline guidelineSample

end Config
end CommitStyle
