import CommitStyle.Linter
import CommitStyle.Proofs.Text.Paragraph
import CommitStyle.Proofs.Text.Sentence
import CommitStyle.Proofs.Url.LineBreak

/-!
# The last line of a paragraph

A paragraph ends like its last line, but for one case. Words are told apart by spaces alone, so a
last line without spaces goes on with the last word of the line above it, and the parser of URLs
passes over the line break between them. Where the two make up a URL, the paragraph ends well
whatever its last line is (`Paragraph.finishes_iff_last`).
-/

namespace CommitStyle

open Text

/-! ## Last lines -/

namespace Text

/-- A text that does not end with a carriage return ends with its last line. -/
theorem exists_last_line {t : Text} (h : t.getLast? ≠ some '\r') :
    ∃ l, (lines t).getLast? = some l ∧ (t = l.text ∨ ∃ above, t = above ++ '\n' :: l.text) := by
  induction t using lineInduction with
  | line p hp =>
    refine ⟨Line.ofPiece p hp, by rw [lines_of_not_mem hp]; rfl, Or.inl ?_⟩
    exact (if_neg h).symm
  | above p t hp ih =>
    have ht : t.getLast? ≠ some '\r' := by
      intro hlast
      rw [List.getLast?_append, List.getLast?_cons, hlast] at h
      exact h rfl
    obtain ⟨l, hl, htext⟩ := ih ht
    refine ⟨l, by rw [lines_append, List.getLast?_append, hl]; rfl, Or.inr ?_⟩
    rcases htext with heq | ⟨above, heq⟩
    · exact ⟨p, by rw [← heq]⟩
    · exact ⟨p ++ '\n' :: above, by rw [heq, List.append_assoc, List.cons_append]⟩

theorem tight_of_mem_paragraphs {t : Text} {p : Paragraph} (h : p ∈ paragraphs t) :
    Tight p.text := by
  obtain ⟨b, -, hb⟩ := mem_paragraphs h
  exact tight_of_trim? hb

end Text

/-! ## Ends -/

/-- A paragraph with the text `t` and the last line `l` ends well : the text ends like a sentence,
or the line is a URL or a footer note. -/
def Line.Finishes (l : Line) (t : Text) : Prop :=
  endsSentence t = true ∨ Url.isUrl l.text = true ∨ l.isFooterNote = true

instance (l : Line) (t : Text) : Decidable (l.Finishes t) :=
  inferInstanceAs (Decidable (_ ∨ _ ∨ _))

/-- The line has no spaces, and the last word above it in the text makes up a URL with it. -/
def Line.RunsOn (l : Line) (t : Text) : Prop :=
  ∃ above, t = above ++ '\n' :: l.text ∧ ' ' ∉ l.text ∧
    Url.isUrl (lastWord above ++ l.text) = true

/-- The text starts with a small letter and is more than a URL on a line of its own. -/
def Paragraph.StartsSmall (p : Paragraph) : Prop :=
  (∃ c, p.text.head? = some c ∧ isLowercase c = true) ∧
    ∀ l, p.lines = [l] → Url.isUrl l.text = false

theorem Line.finishes_below {l : Line} (hne : l.text ≠ []) (above : Text) :
    l.Finishes (above ++ '\n' :: l.text) ↔ l.Finishes l.text ∨
      ' ' ∉ l.text ∧ Url.isUrl (lastWord above ++ l.text) = true := by
  unfold Line.Finishes
  rw [endsSentence_eq, endsSentence_eq, endsInMark_append_feed above hne, Bool.or_eq_true,
    Bool.or_eq_true]
  by_cases hspace : ' ' ∈ l.text
  · have hlast : lastWord (above ++ '\n' :: l.text) = lastWord l.text := by
      rw [List.append_cons, lastWord_append_of_mem _ hspace]
    rw [hlast]
    simp [hspace]
  · have hlast : lastWord (above ++ '\n' :: l.text) = lastWord above ++ '\n' :: l.text :=
      lastWord_append_of_not_mem above (by simpa using hspace)
    rw [hlast, Url.isUrl_append_feed, lastWord_of_not_mem hspace]
    simp only [hspace, not_false_eq_true, true_and]
    tauto

theorem Message.paragraphOffends_iff {p : Paragraph} {l : Line} (hl : p.lines.getLast? = some l) :
    paragraphOffends p = true ↔ p.StartsSmall ∨ ¬l.Finishes p.text := by
  have hlone : (∀ k, p.lines = [k] → Url.isUrl k.text = false) ↔
      (p.lines.length == 1 && Url.isUrl l.text) = false := by
    constructor
    · intro h
      by_cases hlength : p.lines.length = 1
      · obtain ⟨k, hk⟩ := List.length_eq_one_iff.1 hlength
        obtain rfl : k = l := by simpa [hk] using hl
        rw [h k hk, Bool.and_false]
      · rw [beq_false_of_ne hlength, Bool.false_and]
    · intro h k hk
      obtain rfl : k = l := by simpa [hk] using hl
      simpa [hk] using h
  unfold paragraphOffends Paragraph.StartsSmall
  simp only [hl, Option.map_some, Option.getD_some, hlone]
  unfold Line.Finishes Paragraph.endsSentence
  cases p.text.head? <;> simp [and_assoc, imp_iff_not_or]

/-- The rule on paragraphs judges the end of a paragraph by its last line, or by the URL that the
line makes up with the last word above it. -/
theorem Paragraph.finishes_iff_last {t : Text} {p : Paragraph} (hp : p ∈ paragraphs t) :
    ∃ l, p.lines.getLast? = some l ∧
      (Message.paragraphOffends p = true ↔ p.StartsSmall ∨ ¬l.Finishes p.text) ∧
      (l.Finishes p.text ↔ l.Finishes l.text ∨ l.RunsOn p.text) := by
  obtain ⟨c, hlast, hc⟩ := (tight_of_mem_paragraphs hp).last
  have hreturn : p.text.getLast? ≠ some '\r' := by
    rw [hlast]
    rintro ⟨⟩
    cases hc
  obtain ⟨l, hl, htext⟩ := exists_last_line hreturn
  refine ⟨l, hl, Message.paragraphOffends_iff hl, ?_⟩
  rcases htext with heq | ⟨above, heq⟩
  · -- A single line has nothing above it.
    have hsingle : ¬l.RunsOn p.text := by
      rintro ⟨above, habove, -⟩
      exact l.unbroken (by rw [← heq, habove]; simp)
    rw [← heq]
    exact (or_iff_left hsingle).symm
  · have hne : l.text ≠ [] := by
      intro hnil
      rw [heq, hnil, List.getLast?_concat] at hlast
      cases hlast
      cases hc
    rw [heq, Line.finishes_below hne]
    refine or_congr_right ⟨fun ⟨hspace, hurl⟩ => ⟨above, rfl, hspace, hurl⟩, ?_⟩
    rintro ⟨above', habove, hspace, hurl⟩
    rw [List.append_cancel_right habove]
    exact ⟨hspace, hurl⟩

/-- A sentence over two lines. -/
theorem Paragraph.finishes_iff_last_wrapped :
    ∃ p ∈ paragraphs "It reads\nwords.".toList, ∃ l, p.lines.getLast? = some l ∧
      l.text = "words.".toList ∧ l.Finishes p.text := by
  have hp : (⟨"It reads\nwords.".toList⟩ : Paragraph) ∈ paragraphs "It reads\nwords.".toList := by
    decide +kernel
  obtain ⟨l, hl, -, hends⟩ := Paragraph.finishes_iff_last hp
  obtain rfl : ⟨"words.".toList, by decide⟩ = l := Option.some.inj hl
  exact ⟨_, hp, _, hl, rfl, hends.2 (Or.inl (by decide +kernel))⟩

/-- A word with a colon, or a URL, ends the first line. With the word below it that makes a URL, so
the paragraph ends well, and its last line does not. -/
theorem Paragraph.finishes_over_break :
    (∃ p ∈ paragraphs "It reads:\nfoo".toList, ∃ l, p.lines.getLast? = some l ∧
      l.text = "foo".toList ∧ l.Finishes p.text ∧ ¬l.Finishes l.text) ∧
    (∃ m, Message.parse "core: x\n\nIt reads:\nfoo".toList = .ok m ∧
      (Config.evaluate {} .bodyProse m).map Verdict.passed = .ok true) ∧
    (∃ p ∈ paragraphs "See https://example.com\nfoo".toList, ∃ l, p.lines.getLast? = some l ∧
      l.text = "foo".toList ∧ l.Finishes p.text ∧ ¬l.Finishes l.text) ∧
    ∃ m, Message.parse "core: x\n\nSee https://example.com\nfoo".toList = .ok m ∧
      (Config.evaluate {} .bodyProse m).map Verdict.passed = .ok true := by
  refine ⟨⟨⟨"It reads:\nfoo".toList⟩, ?_, ⟨"foo".toList, by decide⟩, rfl, rfl, ?_⟩,
    ⟨⟨"core: x\n\nIt reads:\nfoo".toList, "core: x".toList⟩, ?_⟩,
    ⟨⟨"See https://example.com\nfoo".toList⟩, ?_, ⟨"foo".toList, by decide⟩, rfl, rfl, ?_⟩,
    ⟨"core: x\n\nSee https://example.com\nfoo".toList, "core: x".toList⟩, ?_⟩
  all_goals decide +kernel

end CommitStyle
