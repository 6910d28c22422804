import CommitStyle.Proofs.Linter.Alike
import CommitStyle.Proofs.Message.Code
import CommitStyle.Proofs.Text.FullLine

/-!
# The content of a fenced block

The content of a block is hidden in two ways. All that stands between the first fence and the last
one is taken out of the raw text and of the raw body, and both begin their code at the opening fence
of the block (`Message.rawBody_around`). The scanner of lines skips from that fence to the next one,
which is the closing fence (`Text.outsideFences_withBlock`). So what the content is makes no
difference to a rule that reads neither URLs nor the lines of the body
(`Config.evaluate_fenced_content`).
-/

namespace CommitStyle

namespace Text

/-- The text with a fenced block between `above` and `below`. Its opening fence has `info` behind it
on the same line. -/
def withBlock (above info content below : Text) : Text :=
  above ++ ['\n'] ++ fence ++ info ++ ['\n'] ++ content ++ fence ++ ['\n'] ++ below

/-- The content of a fenced block : whole lines, without a fence. -/
structure BlockContent (content : Text) : Prop where
  unfenced : ¬fence <:+: content
  whole : StartsLine content

theorem withBlock_eq (above info content below : Text) : withBlock above info content below =
    around above (info ++ '\n' :: content) ('\n' :: below) := by
  simp [withBlock, around]

theorem lines_append_of_startsLine {a : Text} (h : StartsLine a) (b : Text) :
    ∃ ls : List Line, lines (a ++ b) = ls ++ lines b ∧ ∀ l ∈ ls, l ∈ lines a := by
  rcases h with rfl | h
  · exact ⟨[], rfl, by simp⟩
  · obtain ⟨a, rfl⟩ := List.getLast?_eq_some_iff.1 h
    refine ⟨lines a, by rw [List.append_assoc, List.singleton_append, lines_append], fun l hl => ?_⟩
    rw [lines_append]
    exact List.mem_append_left _ hl

/-- Of the lines of a block none is kept. -/
theorem outsideFences_withBlock {above info content : Text} (habove : ¬fence <:+: above)
    (hinfo : '\n' ∉ info) (hcontent : BlockContent content) (below : Text) :
    outsideFences (lines (withBlock above info content below)) =
      lines above ++ outsideFences (lines below) := by
  obtain ⟨opening, hopening, hopens⟩ := lines_fence_append hinfo
  obtain ⟨closing, hclosing, hcloses⟩ := lines_fence_append List.not_mem_nil
  obtain ⟨ls, hls, hmem⟩ := lines_append_of_startsLine hcontent.whole (fence ++ '\n' :: below)
  have hlines : lines (withBlock above info content below) =
      lines above ++ opening :: (ls ++ closing :: lines below) := by
    have hsplit : withBlock above info content below =
        above ++ '\n' :: ((fence ++ info) ++ '\n' :: (content ++ (fence ++ '\n' :: below))) := by
      simp [withBlock]
    rw [List.append_nil] at hclosing
    rw [hsplit, lines_append, lines_append, hls, lines_append, hopening, hclosing]
    rfl
  have hinside (l : Line) (hl : l ∈ ls) : l.isFence = false :=
    isFence_of_mem_lines hcontent.unfenced (hmem l hl)
  unfold outsideFences
  rw [hlines, outsideFencesFrom_outside fun l hl => isFence_of_mem_lines habove hl,
    outsideFencesFrom, if_pos hopens, Bool.not_false, outsideFencesFrom_inside hinside,
    outsideFencesFrom, if_pos hcloses, Bool.not_true]

end Text

namespace Message

open Text

/-! ## What is read around code -/

section Around

variable {above : Text}

theorem headerOf_around (habove : above.isBlank = false) (code below : Text) :
    headerOf (around above code below) =
      dropEndWhile (· == '\r') (above.trimStart.takeWhile (· ≠ '\n')) := by
  unfold headerOf
  rw [trim_around habove, if_pos (by simp [around]), around, takeWhile_append_cons (by decide)]

theorem rawBody_around (habove : above.isBlank = false) (header code below : Text) :
    rawBody ⟨around above code below, header⟩ =
      some (around (above.trimStart.dropWhile (· ≠ '\n')) code below.trimEnd) := by
  have hbody : (around above.trimStart code below.trimEnd).dropWhile (· ≠ '\n') =
      around (above.trimStart.dropWhile (· ≠ '\n')) code below.trimEnd :=
    dropWhile_append_cons (by decide) _ _
  unfold rawBody
  rw [trim_around habove, hbody]
  cases hcode : around (above.trimStart.dropWhile (· ≠ '\n')) code below.trimEnd with
  | nil => simp [around] at hcode
  | cons c rest => rfl

theorem hasBody_around (habove : above.isBlank = false) (header code below : Text) :
    hasBody ⟨around above code below, header⟩ = true := by
  have htick : (around (above.trimStart.dropWhile (· ≠ '\n')) code below.trimEnd).isBlank ≠ true :=
    fun h => absurd (List.all_eq_true.1 h '\x60' (by simp [around, fence])) (by decide)
  unfold hasBody body
  rw [rawBody_around habove, Option.bind_some, trim?, if_neg (mt trim_eq_nil_iff.1 htick)]
  rfl

/-- The line below the first one is above the code, or opens it. -/
theorem lines_around (above info rest below : Text) :
    (lines (around above (info ++ '\n' :: rest) below))[1]? =
      (lines above ++ lines (fence ++ info))[1]? := by
  have hsplit : around above (info ++ '\n' :: rest) below =
      above ++ '\n' :: ((fence ++ info) ++ '\n' :: (rest ++ (fence ++ below))) := by
    simp [around]
  have habove := List.length_pos_iff.2 (lines_ne_nil above)
  have hinfo := List.length_pos_iff.2 (lines_ne_nil (fence ++ info))
  rw [hsplit, lines_append, lines_append, ← List.append_assoc,
    List.getElem?_append_left (by rw [List.length_append]; omega)]

end Around

/-! ## Two contents -/

/-- What stands in a block is read for its URLs and in the lines of the body only. -/
theorem agreeOn_withBlock {above info : Text} (habove : above.isBlank = false)
    (hfirst : ¬fence <:+: above) (hinfo : '\n' ∉ info) (below : Text) {content content' : Text}
    (hcontent : BlockContent content) (hcontent' : BlockContent content') {a : Aspect}
    (hurls : a ≠ .urls) (hlines : a ≠ .bodyLines) :
    AgreeOn ⟨withBlock above info content below, headerOf (withBlock above info content below)⟩
      ⟨withBlock above info content' below, headerOf (withBlock above info content' below)⟩ a := by
  have hbodyFirst : ¬fence <:+: above.trimStart.dropWhile (· ≠ '\n') := fun h =>
    hfirst (h.trans ((List.dropWhile_suffix _).trans (List.dropWhile_suffix _)).isInfix)
  obtain ⟨after, hafter⟩ := exists_codeBetween hbodyFirst (trimEnd ('\n' :: below))
  obtain ⟨rawAfter, hrawAfter⟩ := exists_codeBetween hfirst ('\n' :: below)
  have hprose (header code : Text) : bodyWithoutCode ⟨around above code ('\n' :: below), header⟩ =
      trim? (above.trimStart.dropWhile (· ≠ '\n') ++ ['\n'] ++ after) := by
    unfold bodyWithoutCode
    rw [rawBody_around habove, Option.bind_some, (hafter code).withoutCode_eq]
  cases a with
  | header => simp only [AgreeOn, withBlock_eq, headerOf_around habove]
  | urls => exact absurd rfl hurls
  | bodyLines => exact absurd rfl hlines
  | prose => simp only [AgreeOn, withBlock_eq, hasBadProse, hprose]
  | lineLengths => simp only [AgreeOn, withBlock_eq, hasOverlongLine, hprose, implies_true]
  | belowHeader =>
    simp only [AgreeOn, withBlock_eq, lacksBlankBelowHeader, hasBody_around habove,
      trim_around habove, lines_around]
  | numbers =>
    simp only [AgreeOn, withBlock_eq, citesByNumber, rawBody_around habove, Option.map_some,
      (hafter _).withoutCode_eq]
  | gaps => simp only [AgreeOn, withBlock_eq, hasTooManySpaces, (hrawAfter _).withoutCode_eq]
  | lineEnds =>
    simp only [AgreeOn, hasRaggedLine, outsideFences_withBlock hfirst hinfo hcontent,
      outsideFences_withBlock hfirst hinfo hcontent']

theorem not_isBlank_withBlock {above : Text} (h : above.isBlank = false)
    (info content below : Text) : (withBlock above info content below).isBlank = false := by
  rw [withBlock_eq, around, isBlank_append, h, Bool.false_and]

end Message

namespace Config

open Message Text

/-- The content of a fenced block changes no verdict but those on URLs and on the footer. The block
may stand anywhere below the first line that is not blank, and other fences may follow it. -/
theorem evaluate_fenced_content (c : Config) {above info content content' : Text}
    (habove : above.isBlank = false) (hfirst : ¬fence <:+: above) (hinfo : '\n' ∉ info)
    (hcontent : BlockContent content) (hcontent' : BlockContent content') (below : Text) :
    ∃ m n, parse (withBlock above info content below) = .ok m ∧
      parse (withBlock above info content' below) = .ok n ∧
      ∀ r : Rule, r ∉ [.commitHashAlone, .footerLeadingBlank, .footerMaxLineLength,
        .footerNotesMisplacement, .footerReferencesExistence] → c.SameVerdict r m n := by
  refine ⟨_, _, parse_of_not_blank (not_isBlank_withBlock habove info content below),
    parse_of_not_blank (not_isBlank_withBlock habove info content' below), fun r hr => ?_⟩
  rw [List.mem_cons, not_or, ← Rule.aspect_eq_urls_iff, ← Rule.aspect_eq_bodyLines_iff] at hr
  obtain ⟨hurls, hlines⟩ := hr
  refine c.sameVerdict_of_agreeOn (unbroken_headerOf _) ?_
    (agreeOn_withBlock habove hfirst hinfo below hcontent hcontent' hurls hlines)
  rw [withBlock_eq, withBlock_eq, headerOf_around habove, headerOf_around habove]

/-- Wide gaps and numbers in a block, or nothing, with a fence below that is not closed. -/
theorem evaluate_fenced_content_open :
    Text.isBlank "core: add parser\n\nUse it:".toList = false ∧
      ¬fence <:+: "core: add parser\n\nUse it:".toList ∧ '\n' ∉ "sh".toList ∧
      BlockContent "#1 a  b \n".toList ∧ BlockContent [] ∧
      ∃ m n, parse "core: add parser\n\nUse it:\n```sh\n#1 a  b \n```\nDone.\n```\n".toList = .ok m ∧
        parse "core: add parser\n\nUse it:\n```sh\n```\nDone.\n```\n".toList = .ok n ∧
        SameVerdict {} .tooManySpaces m n ∧ SameVerdict {} .properIssueRefs m n := by
  have habove : Text.isBlank "core: add parser\n\nUse it:".toList = false := by decide
  have hfirst : ¬fence <:+: "core: add parser\n\nUse it:".toList := by decide
  have hinfo : '\n' ∉ "sh".toList := by decide
  have hcontent : BlockContent "#1 a  b \n".toList := ⟨by decide, Or.inr rfl⟩
  have hempty : BlockContent [] := ⟨by decide, Or.inl rfl⟩
  obtain ⟨m, n, hm, hn, h⟩ := evaluate_fenced_content {} habove hfirst hinfo hcontent hempty
    "Done.\n```\n".toList
  exact ⟨habove, hfirst, hinfo, hcontent, hempty, m, n, hm, hn, h .tooManySpaces (by decide),
    h .properIssueRefs (by decide)⟩

end Config
end CommitStyle
