import CommitStyle.Body
import CommitStyle.Proofs.Text.Paragraph
import CommitStyle.Proofs.Text.Sentence
import CommitStyle.Proofs.Url.LineBreak

/-!
# Messages and line breaks

Every region of a message is cut out in the same way whether its line breaks are line feeds or have
carriage returns before them, and what the rules on regions find does not change : code and
paragraphs (`Text.withoutCode_withoutReturns`, `Text.paragraphs_withoutReturns`), gaps and issue
numbers, and the shape of a paragraph (`Message.paragraphOffends_withoutReturns`).
-/

namespace CommitStyle

namespace Text

/-! ## Code -/

theorem withoutCode_withoutReturns {t : Text} (h : ReturnsPaired t) :
    withoutCode (withoutReturns t) = withoutReturns (withoutCode t) := by
  unfold withoutCode
  rw [cut_withoutReturns (by decide) (by decide) (by decide) h]
  cases hcut : cut fence t with
  | none => rfl
  | some parts =>
    obtain ⟨before, rest⟩ := parts
    have hrest : ReturnsPaired rest := by
      rw [cut_eq_some hcut] at h
      exact h.of_append_right
    simp only [Option.map_some, Prod.map]
    rw [afterLast_withoutReturns (by decide) (by decide) (by decide) hrest]
    cases afterLast fence rest with
    | none => rfl
    | some after => exact (withoutReturns_append before after).symm

theorem suffix_of_afterLast {p t after : Text} (h : afterLast p t = some after) : after <:+ t := by
  induction t with
  | nil =>
    rw [afterLast] at h
    split at h
    · cases h
      exact List.suffix_refl _
    · cases h
  | cons c t ih =>
    rw [afterLast] at h
    split at h
    · next a ha =>
      cases h
      exact (ih ha).trans (List.suffix_cons c t)
    · split at h
      · cases h
        exact List.drop_suffix _ _
      · cases h

theorem ReturnsPaired.withoutCode {t : Text} (h : ReturnsPaired t) :
    ReturnsPaired t.withoutCode := by
  unfold Text.withoutCode
  cases hcut : cut fence t with
  | none => exact h
  | some parts =>
    obtain ⟨before, rest⟩ := parts
    cases hlast : afterLast fence rest with
    | none => simpa only [hlast] using h
    | some after =>
      simp only [hlast]
      rw [cut_eq_some hcut, List.append_assoc] at h
      have hbefore : ReturnsPaired before := h.of_append_left fun hend =>
        absurd (h.head?_of_getLast? hend) (by simp [fence])
      exact hbefore.append (h.of_append_right.of_append_right.suffix (suffix_of_afterLast hlast))

/-! ## Paragraphs -/

/-- A line feed at the start was there before the carriage returns were taken out, behind one of
them at most. -/
theorem eq_of_withoutReturns_feed {t rest : Text} (h : ReturnsPaired t)
    (hrest : withoutReturns t = '\n' :: rest) :
    ∃ u, (t = '\n' :: u ∨ t = '\r' :: '\n' :: u) ∧ withoutReturns u = rest := by
  cases t with
  | nil => cases hrest
  | cons c t =>
    by_cases hc : c = '\r'
    · subst hc
      obtain ⟨u, rfl⟩ := h.eq_feed_cons
      cases hrest
      exact ⟨u, Or.inr rfl, rfl⟩
    · rw [withoutReturns_cons hc] at hrest
      cases hrest
      exact ⟨t, Or.inl rfl, rfl⟩

theorem eq_of_afterBlankLine? {t after : Text} (hr : '\r' ∉ t)
    (h : afterBlankLine? t = some after) : t = '\n' :: '\n' :: after := by
  fun_cases afterBlankLine? t <;> simp_all [afterBlankLine?]

theorem eq_of_afterBlankLine?_feed {t after : Text} (h : afterBlankLine? ('\n' :: t) = some after) :
    t = '\n' :: after ∨ t = '\r' :: '\n' :: after := by
  unfold afterBlankLine? at h
  split at h <;> simp_all

theorem afterBlankLine?_withoutReturns {t : Text} (h : ReturnsPaired t) :
    afterBlankLine? (withoutReturns t) = (afterBlankLine? t).map withoutReturns := by
  fun_cases afterBlankLine? t with
  | case1 rest => rfl
  | case2 rest => rfl
  | case3 rest => rfl
  | case4 rest => rfl
  | case5 t h₁ h₂ h₃ h₄ =>
    have hnone : afterBlankLine? (withoutReturns t) = none := by
      rw [Option.eq_none_iff_forall_ne_some]
      intro after hafter
      have heq := eq_of_afterBlankLine? (return_not_mem_withoutReturns t) hafter
      obtain ⟨u, hu, hwu⟩ := eq_of_withoutReturns_feed h heq
      have hpaired : ReturnsPaired u := by
        rcases hu with rfl | rfl
        · exact h.2
        · exact h.2.2
      obtain ⟨v, hv, -⟩ := eq_of_withoutReturns_feed hpaired hwu
      rcases hu with rfl | rfl <;> rcases hv with rfl | rfl
      · exact h₄ v rfl
      · exact h₃ v rfl
      · exact h₂ v rfl
      · exact h₁ v rfl
    rw [hnone]
    rfl

theorem blocks_ne_nil (t : Text) : blocks t ≠ [] := by
  fun_induction blocks t with
  | case1 => simp
  | case2 => simp
  | case3 c t h ih => simpa using ih

theorem suffix_of_afterBlankLine? {t after : Text} :
    afterBlankLine? t = some after → after <:+ t := by
  fun_cases afterBlankLine? t with
  | case1 rest => rintro ⟨⟩; exact ⟨['\r', '\n', '\r', '\n'], rfl⟩
  | case2 rest => rintro ⟨⟩; exact ⟨['\r', '\n', '\n'], rfl⟩
  | case3 rest => rintro ⟨⟩; exact ⟨['\n', '\r', '\n'], rfl⟩
  | case4 rest => rintro ⟨⟩; exact ⟨['\n', '\n'], rfl⟩
  | case5 => rintro ⟨⟩

theorem blocks_withoutReturns {t : Text} (h : ReturnsPaired t) :
    blocks (withoutReturns t) = (blocks t).map withoutReturns := by
  fun_induction blocks t with
  | case1 => rw [withoutReturns_nil, blocks]; rfl
  | case2 c t after hsome ih =>
    have hblank := afterBlankLine?_withoutReturns h
    rw [hsome] at hblank
    rw [blocks_of_some hblank, ih (h.suffix (suffix_of_afterBlankLine? hsome))]
    rfl
  | case3 c t hnone ih =>
    have hblank := afterBlankLine?_withoutReturns h
    rw [hnone] at hblank
    obtain ⟨b, bs, hb⟩ := List.exists_cons_of_ne_nil (blocks_ne_nil t)
    by_cases hc : c = '\r'
    · rw [hc, withoutReturns_return, ih h.2, hb]
      rfl
    · rw [withoutReturns_cons hc] at hblank ⊢
      rw [blocks_of_none hblank, ih h.2, hb]
      simp [withoutReturns_cons hc]

/-- No block ends between a carriage return and its line feed. -/
theorem ReturnsPaired.of_mem_blocks {t b : Text} (h : ReturnsPaired t) (hb : b ∈ blocks t) :
    ReturnsPaired b := by
  fun_induction blocks t generalizing b with
  | case1 =>
    rw [List.mem_singleton] at hb
    subst hb
    trivial
  | case2 c t after hsome ih =>
    rcases List.mem_cons.1 hb with rfl | hb
    · trivial
    · exact ih (h.suffix (suffix_of_afterBlankLine? hsome)) hb
  | case3 c t hnone ih =>
    obtain ⟨d, ds, hd⟩ := List.exists_cons_of_ne_nil (blocks_ne_nil t)
    rw [hd, List.modifyHead_cons, List.mem_cons] at hb
    rcases hb with rfl | hb
    · refine ⟨fun hc => ?_, ih h.2 (hd ▸ List.mem_cons_self)⟩
      subst hc
      obtain ⟨rest, rfl⟩ := h.eq_feed_cons
      -- A blank line at the line feed would have been one at the carriage return.
      have hfeed : afterBlankLine? ('\n' :: rest) = none := by
        rw [Option.eq_none_iff_forall_ne_some]
        intro after hafter
        rcases eq_of_afterBlankLine?_feed hafter with rfl | rfl
        · simp [afterBlankLine?] at hnone
        · simp [afterBlankLine?] at hnone
      obtain ⟨e, es, he⟩ := List.exists_cons_of_ne_nil (blocks_ne_nil rest)
      rw [blocks_of_none hfeed, he, List.modifyHead_cons] at hd
      cases hd
      rfl
    · exact ih h.2 (hd ▸ List.mem_cons_of_mem _ hb)

theorem paragraphs_withoutReturns {t : Text} (h : ReturnsPaired t) :
    paragraphs (withoutReturns t) = (paragraphs t).map fun p => ⟨withoutReturns p.text⟩ := by
  unfold paragraphs
  rw [blocks_withoutReturns h, List.filterMap_map, List.map_map]
  have htrim : trim? ∘ withoutReturns = fun b => (trim? b).map withoutReturns :=
    funext trim?_withoutReturns
  rw [htrim]
  induction blocks t with
  | nil => rfl
  | cons b bs ih => cases hb : trim? b <;> simp_all

/-! ## Ends of paragraphs -/

theorem endsSentence_withoutReturns {t : Text} (h : ReturnsPaired t)
    (hlast : ∀ c, t.getLast? = some c → CommitStyle.isBlank c = false) :
    endsSentence (withoutReturns t) = endsSentence t := by
  rcases eq_append_pair t with rfl | ⟨c, rfl⟩ | ⟨u, d, c, rfl⟩
  · rfl
  · have hc : c ≠ '\r' := by
      rintro rfl
      exact absurd (hlast _ rfl) (by decide)
    rw [withoutReturns_cons hc, withoutReturns_nil]
  have hc : CommitStyle.isBlank c = false := hlast c (by simp)
  have hcr : c ≠ '\r' := by
    rintro rfl
    cases hc
  have hd : d ≠ '\r' := by
    rintro rfl
    obtain rfl : c = '\n' := by simpa using h.of_append_right.1 rfl
    cases hc
  have hpair : withoutReturns (u ++ [d, c]) = withoutReturns u ++ [d, c] := by
    rw [withoutReturns_append, withoutReturns_cons hd, withoutReturns_cons hcr, withoutReturns_nil]
  rw [endsSentence_eq, endsSentence_eq, lastWord_withoutReturns, Url.isUrl_withoutReturns, hpair,
    endsInMark_append_pair, endsInMark_append_pair]

end Text

/-! ## What the rules find -/

namespace Message

open Text

theorem paragraphOffends_withoutReturns {p : Paragraph} (h : ReturnsPaired p.text)
    (hp : ∃ b : Text, p.text = b.trim) :
    paragraphOffends ⟨withoutReturns p.text⟩ = paragraphOffends p := by
  obtain ⟨b, hb⟩ := hp
  have hhead : p.text.head? ≠ some '\r' := by
    rw [hb]
    exact head?_trim_ne_return b
  have hends : endsSentence (withoutReturns p.text) = endsSentence p.text :=
    endsSentence_withoutReturns h fun c hc => isBlank_getLast_trim (hb ▸ hc)
  unfold paragraphOffends Paragraph.lines Paragraph.endsSentence
  simp only [lines_withoutReturns h, head?_withoutReturns hhead, hends]

theorem hasHashNumber_cons (c : Char) (t : Text) : hasHashNumber (c :: t) =
    ((c == '#' && (t.head?.map Char.isDigit).getD false) || hasHashNumber t) := by
  by_cases hc : c = '#'
  · subst hc
    cases t with
    | nil => rfl
    | cons d t => rfl
  · rw [hasHashNumber, beq_false_of_ne hc, Bool.false_and, Bool.false_or]
    rintro _ _ rfl
    exact absurd rfl hc

theorem hasHashNumber_withoutReturns {t : Text} (h : ReturnsPaired t) :
    hasHashNumber (withoutReturns t) = hasHashNumber t := by
  induction t with
  | nil => rfl
  | cons c t ih =>
    by_cases hc : c = '\r'
    · subst hc
      rw [withoutReturns_return, ih h.2, hasHashNumber_cons '\r']
      rfl
    · rw [withoutReturns_cons hc, hasHashNumber_cons, hasHashNumber_cons, ih h.2,
        map_head?_withoutReturns (by decide) (by decide) h.2]

theorem hasWideGap_withoutReturns {t : Text} (h : ReturnsPaired t) :
    hasWideGap (withoutReturns t) = hasWideGap t := by
  induction t with
  | nil => rfl
  | cons c t ih =>
    by_cases hc : c = '\r'
    · subst hc
      obtain ⟨rest, rfl⟩ := h.eq_feed_cons
      have hgap : hasWideGap ('\r' :: '\n' :: rest) = hasWideGap ('\n' :: rest) := rfl
      rw [withoutReturns_return, ih h.2, hgap]
    · rw [withoutReturns_cons hc, hasWideGap, hasWideGap, ih h.2,
        isPrefixOf_withoutReturns (by decide) (by decide) h.2]

end Message
end CommitStyle
