import CommitStyle.Proofs.Text.LineBreak
import CommitStyle.Url.Find

/-!
# URLs and line breaks

The parser of URLs passes over carriage returns and line feeds (`Url.isUrl_withoutReturns`,
`Url.isUrl_append_feed`), and a mention of a URL ends before either of them, so that a text mentions
the same URLs however its line breaks are written (`Url.find_withoutReturns`).
-/

namespace CommitStyle.Url

open Text

theorem isControlOrSpace_of_isTabOrBreak {c : Char} (h : isTabOrBreak c = true) :
    isControlOrSpace c = true := by
  simp only [isTabOrBreak, Bool.or_eq_true, beq_iff_eq] at h
  rcases h with (rfl | rfl) | rfl <;> decide

/-- Tabs and line breaks may as well be taken out first. -/
theorem significant_eq (t : Text) : significant t = dropEndWhile isControlOrSpace
    ((t.filter fun c => !isTabOrBreak c).dropWhile isControlOrSpace) := by
  have hwalk : (fun c => !(!isTabOrBreak c) || isControlOrSpace c) = isControlOrSpace := by
    funext c
    cases hc : isTabOrBreak c with
    | false => rfl
    | true => rw [isControlOrSpace_of_isTabOrBreak hc, Bool.or_true]
  unfold significant dropEndWhile
  rw [List.dropWhile_filter, hwalk, ← List.filter_reverse, List.dropWhile_filter, hwalk,
    List.filter_reverse]

theorem isUrl_congr {t u : Text}
    (h : t.filter (fun c => !isTabOrBreak c) = u.filter fun c => !isTabOrBreak c) :
    isUrl t = isUrl u := by
  unfold isUrl
  rw [significant_eq, significant_eq, h]

/-- A carriage return anywhere in a text makes no difference to its being a URL. -/
theorem isUrl_withoutReturns (t : Text) : isUrl (withoutReturns t) = isUrl t := by
  refine isUrl_congr ?_
  unfold withoutReturns
  rw [List.filter_filter]
  refine List.filter_congr fun c _ => ?_
  by_cases hc : c = '\r' <;> simp [hc, isTabOrBreak]

/-- A URL may be broken over lines. -/
theorem isUrl_append_feed (a b : Text) : isUrl (a ++ '\n' :: b) = isUrl (a ++ b) :=
  isUrl_congr (by rw [List.filter_append, List.filter_append, List.filter_cons_of_neg (by decide)])

theorem mentionAt?_withoutReturns {t : Text} (h : ReturnsPaired t) :
    mentionAt? (withoutReturns t) = (mentionAt? t).map (Prod.map id withoutReturns) := by
  have hrest := h.suffix (List.dropWhile_suffix (l := t) isSchemeChar)
  unfold mentionAt?
  rw [map_head?_withoutReturns (by decide) (by decide) h,
    takeWhile_withoutReturns_of_break (by decide) (by decide) h,
    dropWhile_withoutReturns_of_break (by decide) (by decide) h]
  simp only [isPrefixOf_withoutReturns (p := slashes) (by decide) (by decide) hrest]
  cases hslashes : slashes.isPrefixOf (t.dropWhile isSchemeChar) with
  | false => simp
  | true =>
    have hdrop : (withoutReturns (t.dropWhile isSchemeChar)).drop 3 =
        withoutReturns ((t.dropWhile isSchemeChar).drop 3) :=
      drop_withoutReturns (p := slashes) (by decide) hslashes
    have hafter := hrest.suffix (List.drop_suffix 3 _)
    rw [hdrop, takeWhile_withoutReturns_of_break (by decide) (by decide) hafter,
      dropWhile_withoutReturns_of_break (by decide) (by decide) hafter]
    split <;> rfl

theorem suffix_of_mentionAt? {t mention after : Text} (h : mentionAt? t = some (mention, after)) :
    after <:+ t := by
  rw [mentionAt?] at h
  split at h
  · simp only [Option.some.injEq, Prod.mk.injEq] at h
    obtain ⟨-, rfl⟩ := h
    exact (List.dropWhile_suffix _).trans ((List.drop_suffix _ _).trans (List.dropWhile_suffix _))
  · cases h

theorem mentions_of_some {t mention after : Text} (h : mentionAt? t = some (mention, after)) :
    mentions t = mention :: mentions after := by
  cases t with
  | nil => cases h
  | cons c t =>
    rw [mentions]
    split
    · next h' =>
      rw [h] at h'
      cases h'
      rfl
    · next h' => cases h.symm.trans h'

theorem mentions_of_none {c : Char} {t : Text} (h : mentionAt? (c :: t) = none) :
    mentions (c :: t) = mentions t := by
  rw [mentions]
  split
  · next h' => cases h.symm.trans h'
  · rfl

theorem mentions_withoutReturns {t : Text} (h : ReturnsPaired t) :
    mentions (withoutReturns t) = mentions t := by
  fun_induction mentions t with
  | case1 => rw [withoutReturns_nil, mentions]
  | case2 c t mention after hsome ih =>
    have hmention := mentionAt?_withoutReturns h
    rw [hsome] at hmention
    rw [mentions_of_some hmention, id, ih (h.suffix (suffix_of_mentionAt? hsome))]
  | case3 c t hnone ih =>
    have hmention := mentionAt?_withoutReturns h
    rw [hnone] at hmention
    by_cases hc : c = '\r'
    · rw [hc, withoutReturns_return, ih h.2]
    · rw [withoutReturns_cons hc] at hmention ⊢
      rw [mentions_of_none hmention, ih h.2]

/-- A text mentions the same URLs however its line breaks are written. -/
theorem find_withoutReturns {t : Text} (h : ReturnsPaired t) :
    find (withoutReturns t) = find t := by
  unfold find
  rw [mentions_withoutReturns h]

end CommitStyle.Url
