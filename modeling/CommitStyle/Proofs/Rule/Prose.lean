import CommitStyle.Proofs.Message.LastLine
import CommitStyle.Proofs.Rule.LineLength
import CommitStyle.Proofs.Rule.Misuse
import CommitStyle.Proofs.Message.BlankLine
import CommitStyle.Proofs.Url.Form

/-!
# Prose and URLs

The rules on long lines and on paragraphs make an exception for lines that are URLs. Prose is a URL
only where it begins like one, with the name of a scheme and a colon and no space in its host
(`Rule.fails_or_isUrl`). A line that begins so and has no host is a URL whatever it goes on with, so
a note such as `note: it has no end` is excused.
-/

namespace CommitStyle

open Text

/-- A space with a character that is no space on each side of it. -/
def Text.HasInnerSpace (t : Text) : Prop :=
  ∃ c d, c ≠ ' ' ∧ d ≠ ' ' ∧ [c, ' ', d] <:+: t

theorem Message.mem_measuredLines {m : Message} {l : Line}
    (h : l.text ∈ m.measuredLines.map Line.text) : l ∈ m.measuredLines := by
  obtain ⟨k, hk, htext⟩ := List.mem_map.1 h
  exact Line.ext htext ▸ hk

namespace Rule

theorem fails_of_overlong {o : Options} {m : Message} {l : Line} (hl : l ∈ m.measuredLines)
    (hlong : o.bodySoftMaxLineLength < l.text.length) (hnote : l.isFooterNote = false)
    (hurl : Url.isUrl l.text = false) :
    ∃ v, check .bodySoftMaxLineLength o m = .ok v ∧ v.passed = false := by
  obtain ⟨v, hv, hpassed⟩ := exists_verdict (r := .bodySoftMaxLineLength) (o := o) (m := m) rfl
  exact ⟨v, hv, hpassed.2 (Message.hasOverlongLine_iff.2 ⟨l, hl, hlong, hurl, hnote⟩)⟩

theorem fails_of_startsSmall {o : Options} {m : Message} {p : Paragraph} (hp : p ∈ m.prose)
    (hsmall : p.StartsSmall) : ∃ v, check .bodyProse o m = .ok v ∧ v.passed = false := by
  obtain ⟨v, hv, hpassed⟩ := exists_verdict (r := .bodyProse) (o := o) (m := m) rfl
  refine ⟨v, hv, hpassed.2 ?_⟩
  rw [Message.hasBadProse_eq, List.any_eq_true]
  have hlast := List.getLast?_eq_some_getLast (lines_ne_nil p.text)
  exact ⟨p, hp, (Message.paragraphOffends_iff hlast).2 (Or.inl hsmall)⟩

/-- A line that is too long and no footer note is a URL or makes the rule on long lines fail, and so
does a paragraph that starts with a small letter with the rule on paragraphs, unless it is a URL on
a single line. A URL has the name of a scheme and a colon in front, and no space in its host; what
begins with a scheme and a colon and has no host is a URL. -/
theorem fails_or_isUrl (o : Options) (m : Message) :
    (∀ l ∈ m.measuredLines, o.bodySoftMaxLineLength < l.text.length → l.isFooterNote = false →
      (∃ v, check .bodySoftMaxLineLength o m = .ok v ∧ v.passed = false) ∨
        Url.isUrl l.text = true) ∧
    (∀ p ∈ m.prose, (∃ c, p.text.head? = some c ∧ isLowercase c = true) →
      (∃ v, check .bodyProse o m = .ok v ∧ v.passed = false) ∨
        ∃ l, p.lines = [l] ∧ Url.isUrl l.text = true) ∧
    (∀ t, Url.isUrl t = true → ∃ host, Url.HasForm t host ∧ ∀ x ∈ host, ' ' ∉ x) ∧
    ∀ t, Url.HasForm t none → Url.isUrl t = true := by
  refine ⟨fun l hl hlong hnote => ?_, fun p hp hsmall => ?_, fun t => Url.exists_hasForm_of_isUrl,
    fun t => Url.isUrl_of_hasForm_none⟩
  · cases hurl : Url.isUrl l.text with
    | true => exact Or.inr rfl
    | false => exact Or.inl (fails_of_overlong hl hlong hnote hurl)
  · by_cases hlone : ∃ l, p.lines = [l] ∧ Url.isUrl l.text = true
    · exact Or.inr hlone
    · refine Or.inl (fails_of_startsSmall hp ⟨hsmall, fun l hl => ?_⟩)
      by_contra hurl
      exact hlone ⟨l, hl, by simpa using hurl⟩

/-- A paragraph without a capital, a line over a small limit, and a URL with spaces. -/
theorem fails_or_isUrl_small :
    (∃ v, check .bodyProse ({} : Config).options ⟨"x\n\nit reads.".toList, ['x']⟩ = .ok v ∧
      v.passed = false) ∧
    (∃ v, check .bodySoftMaxLineLength { ({} : Config).options with bodySoftMaxLineLength := 8 }
      ⟨"x\n\nIt reads.".toList, ['x']⟩ = .ok v ∧ v.passed = false) ∧
    Url.isUrl "note: it has no end".toList = true := by
  refine ⟨?_, ?_, ?_⟩
  · obtain ⟨-, hparagraphs, -⟩ := fails_or_isUrl ({} : Config).options
      ⟨"x\n\nit reads.".toList, ['x']⟩
    rcases hparagraphs ⟨"it reads.".toList⟩ (by decide +kernel) ⟨'i', rfl, by decide +kernel⟩ with
      hfails | ⟨l, hl, hurl⟩
    · exact hfails
    · obtain rfl : ⟨"it reads.".toList, by decide⟩ = l := (List.cons.inj hl).1
      cases hurl
  · obtain ⟨hlines, -⟩ := fails_or_isUrl
      { ({} : Config).options with bodySoftMaxLineLength := 8 } ⟨"x\n\nIt reads.".toList, ['x']⟩
    rcases hlines ⟨"It reads.".toList, by decide⟩ (Message.mem_measuredLines (by decide +kernel))
      (by decide +kernel) (by decide +kernel) with hfails | hurl
    · exact hfails
    · cases hurl
  · obtain ⟨-, -, -, hform⟩ := fails_or_isUrl ({} : Config).options ⟨[], []⟩
    have hname : Url.IsSchemeName "note".toList :=
      ⟨⟨'n', rfl, by decide⟩, List.all_eq_true.1 (by decide)⟩
    exact hform _ ⟨"note".toList, " it has no end".toList, hname, by decide, by decide⟩

/-- A word with a colon in front of a lone line makes the line a URL. The rules on paragraphs and on
long lines pass, whatever spaces it has. -/
theorem passes_behind_scheme :
    (∃ m, Message.parse "core: x\n\nnote: it has no end".toList = .ok m ∧
      (∃ p ∈ m.prose, (∃ c, p.text.head? = some c ∧ isLowercase c = true) ∧
        ∀ l ∈ p.lines, l.text.HasInnerSpace) ∧
      (Config.evaluate {} .bodyProse m).map Verdict.passed = .ok true) ∧
    ∃ m, Message.parse
        "core: x\n\nnote: it reads what it is handed and keeps the place of all tokens".toList =
          .ok m ∧
      (∃ l ∈ m.measuredLines, ({} : Config).options.bodySoftMaxLineLength < l.text.length ∧
        l.text.HasInnerSpace ∧ l.isFooterNote = false) ∧
      (Config.evaluate {} .bodySoftMaxLineLength m).map Verdict.passed = .ok true := by
  constructor
  · refine ⟨⟨"core: x\n\nnote: it has no end".toList, "core: x".toList⟩, by decide +kernel,
      ⟨⟨"note: it has no end".toList⟩, by decide +kernel, ⟨'n', rfl, by decide +kernel⟩, ?_⟩,
      by decide +kernel⟩
    intro l hl
    have hlines : l.text ∈ ["note: it has no end".toList] := List.mem_map_of_mem hl
    rw [List.mem_singleton.1 hlines]
    exact ⟨':', 'i', by decide, by decide, by decide⟩
  · refine ⟨⟨
      "core: x\n\nnote: it reads what it is handed and keeps the place of all tokens".toList,
      "core: x".toList⟩, by decide +kernel, ⟨⟨
        "note: it reads what it is handed and keeps the place of all tokens".toList, by decide⟩,
        Message.mem_measuredLines (by decide +kernel), by decide +kernel, ?_, by decide +kernel⟩,
      by decide +kernel⟩
    exact ⟨':', 'i', by decide, by decide, by decide⟩

end Rule
end CommitStyle
