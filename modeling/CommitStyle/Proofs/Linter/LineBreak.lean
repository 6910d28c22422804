import CommitStyle.Proofs.Linter.Alike
import CommitStyle.Proofs.Message.LineBreak

/-!
# Line breaks do not matter

A message written with carriage returns and line feeds lints like the message with line feeds
alone. The regions that the rules look at are those of the other message with the carriage returns
taken out, from the header to the body without code (`Message.rawBody_withoutReturns`), and cutting
a region into lines takes out the rest (`Message.bodyLines_withoutReturns`).
-/

namespace CommitStyle

open Text

namespace Message

/-! ## Headers -/

theorem headerOf_withoutReturns {t : Text} (h : ReturnsPaired t) :
    headerOf (withoutReturns t) = headerOf t := by
  have hmem : '\n' ∈ withoutReturns t.trim ↔ '\n' ∈ t.trim := by simp [withoutReturns]
  unfold headerOf
  rw [trim_withoutReturns]
  simp only [hmem]
  split
  · rw [takeWhile_withoutReturns (by decide), dropEndWhile_withoutReturns (by decide),
      dropEndWhile_return h.trim]
    exact withoutReturns_eq_self (return_not_mem_withoutReturns _)
  · next hn => exact withoutReturns_eq_self (h.trim.return_not_mem hn)

/-! ## Bodies -/

variable {t : Text} (header : Text) (h : ReturnsPaired t)

theorem rawBody_withoutReturns :
    rawBody ⟨withoutReturns t, header⟩ = (rawBody ⟨t, header⟩).map withoutReturns := by
  unfold rawBody
  simp only [trim_withoutReturns]
  rw [dropWhile_withoutReturns (by decide)]
  cases hbody : t.trim.dropWhile (· ≠ '\n') with
  | nil => rfl
  | cons c rest =>
    have hc : c ≠ '\r' := by
      have hstop := stop_dropWhile (p := (· ≠ '\n')) t.trim c (by rw [hbody]; rfl)
      rintro rfl
      cases hstop
    rw [withoutReturns_cons hc]
    simp [withoutReturns_cons hc]

include h in
theorem returnsPaired_of_rawBody {body : Text} (hbody : rawBody ⟨t, header⟩ = some body) :
    ReturnsPaired body := by
  unfold rawBody at hbody
  split at hbody
  · cases hbody
  · cases hbody
    exact h.trim.suffix (List.dropWhile_suffix _)

theorem body_withoutReturns :
    body ⟨withoutReturns t, header⟩ = (body ⟨t, header⟩).map withoutReturns := by
  unfold body
  rw [rawBody_withoutReturns]
  cases rawBody ⟨t, header⟩ with
  | none => rfl
  | some body => exact trim?_withoutReturns body

include h in
theorem bodyLines_withoutReturns :
    bodyLines ⟨withoutReturns t, header⟩ = bodyLines ⟨t, header⟩ := by
  unfold bodyLines
  rw [body_withoutReturns]
  cases hbody : body ⟨t, header⟩ with
  | none => rfl
  | some b =>
    obtain ⟨raw, hraw, hb⟩ := Option.bind_eq_some_iff.1 hbody
    exact lines_withoutReturns ((returnsPaired_of_rawBody header h hraw).trim? hb)

include h in
theorem bodyWithoutCode_withoutReturns :
    bodyWithoutCode ⟨withoutReturns t, header⟩ =
      (bodyWithoutCode ⟨t, header⟩).map withoutReturns := by
  unfold bodyWithoutCode
  rw [rawBody_withoutReturns]
  cases hraw : rawBody ⟨t, header⟩ with
  | none => rfl
  | some raw =>
    simp only [Option.map_some, Option.bind_some]
    rw [withoutCode_withoutReturns (returnsPaired_of_rawBody header h hraw), trim?_withoutReturns]

include h in
theorem returnsPaired_of_bodyWithoutCode {b : Text}
    (hb : bodyWithoutCode ⟨t, header⟩ = some b) : ReturnsPaired b := by
  obtain ⟨raw, hraw, hb⟩ := Option.bind_eq_some_iff.1 hb
  exact (returnsPaired_of_rawBody header h hraw).withoutCode.trim? hb

/-! ## The rules -/

include h in
theorem hasBadProse_withoutReturns :
    hasBadProse ⟨withoutReturns t, header⟩ = hasBadProse ⟨t, header⟩ := by
  unfold hasBadProse
  rw [bodyWithoutCode_withoutReturns header h]
  cases hb : bodyWithoutCode ⟨t, header⟩ with
  | none => rfl
  | some b =>
    have hpaired := returnsPaired_of_bodyWithoutCode header h hb
    simp only [Option.map_some, Option.getD_some]
    rw [paragraphs_withoutReturns hpaired, List.any_map, Bool.eq_iff_iff]
    simp only [List.any_eq_true, Function.comp_apply]
    refine exists_congr fun p => and_congr_right fun hp => ?_
    obtain ⟨block, hblock, htrim⟩ := mem_paragraphs hp
    rw [paragraphOffends_withoutReturns ((hpaired.of_mem_blocks hblock).trim? htrim)
      ⟨block, (eq_trim_of_trim? htrim).1⟩]

include h in
theorem hasOverlongLine_withoutReturns (max : Nat) :
    hasOverlongLine max ⟨withoutReturns t, header⟩ = hasOverlongLine max ⟨t, header⟩ := by
  unfold hasOverlongLine
  rw [bodyWithoutCode_withoutReturns header h]
  cases hb : bodyWithoutCode ⟨t, header⟩ with
  | none => rfl
  | some b =>
    simp only [Option.map_some, Option.getD_some,
      lines_withoutReturns (returnsPaired_of_bodyWithoutCode header h hb)]

include h in
theorem citesByNumber_withoutReturns :
    citesByNumber ⟨withoutReturns t, header⟩ = citesByNumber ⟨t, header⟩ := by
  unfold citesByNumber
  rw [rawBody_withoutReturns]
  cases hraw : rawBody ⟨t, header⟩ with
  | none => rfl
  | some raw =>
    have hpaired := returnsPaired_of_rawBody header h hraw
    simp only [Option.map_some, Option.getD_some, withoutCode_withoutReturns hpaired,
      hasHashNumber_withoutReturns hpaired.withoutCode]

include h in
theorem alike_withoutReturns : Alike ⟨withoutReturns t, header⟩ ⟨t, header⟩
  | .header => rfl
  | .urls => Url.find_withoutReturns h
  | .bodyLines => bodyLines_withoutReturns header h
  | .prose => hasBadProse_withoutReturns header h
  | .lineLengths => hasOverlongLine_withoutReturns header h
  | .numbers => citesByNumber_withoutReturns header h
  | .belowHeader => by
    have hbody : hasBody ⟨withoutReturns t, header⟩ = hasBody ⟨t, header⟩ := by
      unfold hasBody
      rw [body_withoutReturns, Option.isSome_map]
    unfold AgreeOn lacksBlankBelowHeader
    rw [hbody]
    simp only [trim_withoutReturns, lines_withoutReturns h.trim]
  | .gaps => by
    unfold AgreeOn hasTooManySpaces
    simp only [withoutCode_withoutReturns h, hasWideGap_withoutReturns h.withoutCode]
  | .lineEnds => by
    unfold AgreeOn hasRaggedLine
    simp only [lines_withoutReturns h]

end Message

namespace Config

theorem lintsAlike_withoutReturns (c : Config) {t : Text} (h : ReturnsPaired t) :
    c.LintsAlike (Message.parse (withoutReturns t)) (Message.parse t) := by
  refine c.lintsAlike_of_alike ?_ ?_
  · rw [trim_withoutReturns, withoutReturns_trim_eq_nil_iff]
  · rw [Message.headerOf_withoutReturns h]
    exact Message.alike_withoutReturns _ h

/-- A text whose carriage returns all belong to line breaks lints like the text with a line feed for
every line break : either both are refused, or both get the same report. -/
theorem lintsAlike_unified (c : Config) (t : Text) (h : ReturnsPaired t) :
    c.LintsAlike (Message.parse t) (Message.parse t.unified) := by
  rw [unified_eq_withoutReturns h]
  exact (c.lintsAlike_withoutReturns h).symm

/-- A carriage return and a line feed below the header, a line feed above the body. -/
theorem lintsAlike_unified_mixed :
    ReturnsPaired "core: add parser\r\n\nIt reads.\r\n".toList ∧
      LintsAlike {} (Message.parse "core: add parser\r\n\nIt reads.\r\n".toList)
        (Message.parse "core: add parser\n\nIt reads.\n".toList) := by
  have h : ReturnsPaired "core: add parser\r\n\nIt reads.\r\n".toList := by decide
  exact ⟨h, lintsAlike_unified {} _ h⟩

end Config
end CommitStyle
