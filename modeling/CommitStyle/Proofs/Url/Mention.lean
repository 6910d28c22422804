import CommitStyle.Proofs.Url.LineBreak
import CommitStyle.Proofs.Url.Scheme

/-!
# Mentions of URLs

A mention is the name of a scheme, `://` and more characters, none of which is a delimiter
(`Url.IsMention`). The search for mentions goes through a text from left to right : where a mention
begins it takes the longest one and goes on behind it, elsewhere it passes one character
(`Url.Searched`, `Url.searched_iff`). No mention reaches over a delimiter, so the search of a text
is the searches of its parts on both sides of one (`Url.Searched.append_cons`), and blank characters
around a text add no URL to it (`Url.find_blank_append_blank`).
-/

namespace CommitStyle.Url

open Text

/-! ## Mentions -/

/-- The name of a scheme, `://` and at least one more character, all of them no delimiters. -/
def IsMention (u : Text) : Prop :=
  ∃ name body, IsSchemeName name ∧ body ≠ [] ∧ (∀ c ∈ body, isDelimiter c = false) ∧
    u = name ++ slashes ++ body

theorem isDelimiter_of_isBlank {d : Char} (hd : isBlank d = true) : isDelimiter d = true := by
  unfold isDelimiter
  rw [hd, Bool.true_or]

/-- A delimiter stands in no part of a mention. -/
theorem outside_of_isDelimiter {d : Char} (hd : isDelimiter d = true) :
    isSchemeChar d = false ∧ d ∉ slashes := by
  have hall : ((blanks ++ ['<', '>', '(', ')', '[', ']']).all fun d =>
      !isSchemeChar d && !List.contains slashes d) = true := by decide
  have hmem : d ∈ blanks ++ ['<', '>', '(', ')', '[', ']'] := by
    simpa [isDelimiter, isBlank] using hd
  simpa using List.all_eq_true.1 hall d hmem

namespace IsMention

variable {u : Text}

theorem not_isDelimiter (h : IsMention u) {c : Char} (hc : c ∈ u) : isDelimiter c = false := by
  obtain ⟨name, body, hname, -, hbody, rfl⟩ := h
  rw [← Bool.not_eq_true]
  intro hdelimiter
  obtain ⟨hscheme, hslash⟩ := outside_of_isDelimiter hdelimiter
  rw [List.mem_append, List.mem_append] at hc
  rcases hc with (hc | hc) | hc
  · exact absurd (hname.chars c hc) (by simp [hscheme])
  · exact hslash hc
  · exact absurd (hbody c hc) (by simp [hdelimiter])

theorem ne_nil (h : IsMention u) : u ≠ [] := by
  obtain ⟨name, body, -, hne, -, rfl⟩ := h
  exact fun hnil => hne (List.append_eq_nil_iff.1 hnil).2

/-- More characters that are no delimiters make a longer mention. -/
theorem append (h : IsMention u) {t : Text} (ht : ∀ c ∈ t, isDelimiter c = false) :
    IsMention (u ++ t) := by
  obtain ⟨name, body, hname, hne, hbody, rfl⟩ := h
  refine ⟨name, body ++ t, hname, fun hnil => hne (List.append_eq_nil_iff.1 hnil).1, ?_, ?_⟩
  · exact List.forall_mem_append.2 ⟨hbody, ht⟩
  · rw [List.append_assoc]

end IsMention

theorem isDelimiter_head_dropWhile (t : Text) :
    ∀ c ∈ (t.dropWhile fun c => !isDelimiter c).head?, isDelimiter c = true :=
  fun c hc => by simpa using stop_dropWhile t c hc

/-- The mention at the start of a text is the longest one. -/
theorem mentionAt?_eq_some_iff {t u after : Text} : mentionAt? t = some (u, after) ↔
    IsMention u ∧ t = u ++ after ∧ ∀ c ∈ after.head?, isDelimiter c = true := by
  constructor
  · intro h
    unfold mentionAt? at h
    obtain ⟨hmention, h⟩ := Option.ite_none_right_eq_some.1 h
    cases h
    rw [Bool.and_eq_true, Bool.and_eq_true, List.isPrefixOf_iff_prefix, decide_eq_true_eq]
      at hmention
    obtain ⟨⟨hletter, more, hmore⟩, hbody⟩ := hmention
    have hdrop : (t.dropWhile isSchemeChar).drop 3 = more := by
      rw [← hmore]
      rfl
    rw [hdrop] at hbody ⊢
    refine ⟨⟨_, _, ⟨?_, fun c hc => List.mem_takeWhile_imp hc⟩, hbody, fun c hc => ?_, rfl⟩, ?_,
      isDelimiter_head_dropWhile more⟩
    · cases t with
      | nil => cases hletter
      | cons c t =>
        refine ⟨c, ?_, hletter⟩
        rw [List.takeWhile_cons_of_pos (isSchemeChar_of_isLetter hletter), List.head?_cons]
    · simpa using List.mem_takeWhile_imp hc
    · rw [List.append_assoc, List.append_assoc, List.takeWhile_append_dropWhile, hmore,
        List.takeWhile_append_dropWhile]
  · rintro ⟨⟨name, body, hname, hne, hbody, rfl⟩, rfl, hafter⟩
    obtain ⟨c, hc, hletter⟩ := hname.letter
    have hcolon : isSchemeChar ':' = false := by decide
    have hsplit : name ++ slashes ++ body ++ after =
        name ++ ':' :: ('/' :: '/' :: (body ++ after)) := by simp [slashes]
    have hpass : ∀ c ∈ body, (!isDelimiter c) = true := fun c hc => by simp [hbody c hc]
    have hstop : ∀ c ∈ after.head?, (!isDelimiter c) = false := fun c hc => by simp [hafter c hc]
    unfold mentionAt?
    rw [hsplit, takeWhile_append_cons_of_pos hname.chars hcolon,
      dropWhile_append_cons_of_pos hname.chars hcolon]
    simp only [List.drop_succ_cons, List.drop_zero]
    rw [takeWhile_append_of_stop hpass hstop, dropWhile_append_of_stop hpass hstop, if_pos]
    simp [hc, hletter, hne, slashes]

theorem mentionAt?_eq_none_iff {t : Text} :
    mentionAt? t = none ↔ ∀ u, IsMention u → ¬u <+: t := by
  constructor
  · rintro hnone u hu ⟨rest, rfl⟩
    have hlonger := hu.append (t := rest.takeWhile fun c => !isDelimiter c) fun c hc => by
      simpa using List.mem_takeWhile_imp hc
    have hsplit : u ++ rest = u ++ rest.takeWhile (fun c => !isDelimiter c) ++
        rest.dropWhile fun c => !isDelimiter c := by
      rw [List.append_assoc, List.takeWhile_append_dropWhile]
    have hsome := mentionAt?_eq_some_iff.2 ⟨hlonger, hsplit, isDelimiter_head_dropWhile rest⟩
    cases hnone.symm.trans hsome
  · intro hno
    rw [Option.eq_none_iff_forall_ne_some]
    rintro ⟨u, after⟩ hsome
    obtain ⟨hu, rfl, -⟩ := mentionAt?_eq_some_iff.1 hsome
    exact hno u hu (List.prefix_append u after)

/-! ## The search -/

/-- The mentions that a search finds which walks through the text, takes the longest mention where
there is one and goes on behind it. -/
inductive Searched : Text → List Text → Prop where
  | done : Searched [] []
  | found {u after : Text} {us : List Text} (hu : IsMention u)
      (hlongest : ∀ c ∈ after.head?, isDelimiter c = true) (behind : Searched after us) :
      Searched (u ++ after) (u :: us)
  | pass {c : Char} {t : Text} {us : List Text} (hno : ∀ u, IsMention u → ¬u <+: c :: t)
      (behind : Searched t us) : Searched (c :: t) us

theorem searched_mentions (t : Text) : Searched t (mentions t) := by
  fun_induction mentions t with
  | case1 => exact .done
  | case2 c t u after hsome ih =>
    obtain ⟨hu, ht, hlongest⟩ := mentionAt?_eq_some_iff.1 hsome
    rw [ht]
    exact .found hu hlongest ih
  | case3 c t hnone ih => exact .pass (mentionAt?_eq_none_iff.1 hnone) ih

theorem searched_iff {t : Text} {us : List Text} : Searched t us ↔ us = mentions t := by
  constructor
  · intro h
    induction h with
    | done => rw [mentions]
    | found hu hlongest _ ih =>
      rw [mentions_of_some (mentionAt?_eq_some_iff.2 ⟨hu, rfl, hlongest⟩), ih]
    | pass hno _ ih => rw [mentions_of_none (mentionAt?_eq_none_iff.2 hno), ih]
  · rintro rfl
    exact searched_mentions t

theorem Searched.isMention {t : Text} {us : List Text} (h : Searched t us) :
    ∀ u ∈ us, IsMention u := by
  induction h with
  | done => simp
  | found hu _ _ ih => exact List.forall_mem_cons.2 ⟨hu, ih⟩
  | pass _ _ ih => exact ih

section Delimiter

variable {d : Char} (hd : isDelimiter d = true)
include hd

theorem IsMention.prefix_of_append_cons {u : Text} (h : IsMention u) {a b : Text}
    (hp : u <+: a ++ d :: b) : u <+: a := by
  have hmem : d ∉ u := fun hmem => by simp [h.not_isDelimiter hmem] at hd
  rwa [← List.isPrefixOf_iff_prefix, isPrefixOf_append_cons hmem, List.isPrefixOf_iff_prefix] at hp

/-- The search keeps nothing in mind when it comes to a delimiter. -/
theorem Searched.append_cons {a b : Text} {us vs : List Text} (ha : Searched a us)
    (hb : Searched b vs) : Searched (a ++ d :: b) (us ++ vs) := by
  induction ha with
  | done =>
    refine .pass (fun u hu hp => hu.ne_nil ?_) hb
    exact List.prefix_nil.1 (hu.prefix_of_append_cons hd hp)
  | @found u after us hu hlongest _ ih =>
    rw [List.append_assoc, List.cons_append]
    refine .found hu ?_ ih
    cases after with
    | nil => simpa using hd
    | cons c after => exact hlongest
  | pass hno _ ih =>
    exact .pass (fun u hu hp => hno u hu (hu.prefix_of_append_cons hd hp)) ih

theorem mentions_append_cons (a b : Text) :
    mentions (a ++ d :: b) = mentions a ++ mentions b :=
  (searched_iff.1 ((searched_mentions a).append_cons hd (searched_mentions b))).symm

theorem find_append_cons (a b : Text) : find (a ++ d :: b) = find a ++ find b := by
  unfold find
  rw [mentions_append_cons hd, List.map_append, List.filter_append]

end Delimiter

/-! ## Blank characters around a text -/

theorem mentions_append_blank (t : Text) {b : Text} (hb : Text.isBlank b = true) :
    mentions (t ++ b) = mentions t := by
  induction b generalizing t with
  | nil => rw [List.append_nil]
  | cons d b ih =>
    unfold Text.isBlank at hb
    rw [List.all_cons, Bool.and_eq_true] at hb
    have hnil : mentions b = [] := by simpa [mentions] using ih [] hb.2
    rw [mentions_append_cons (isDelimiter_of_isBlank hb.1), hnil, List.append_nil]

theorem mentions_blank_append {a : Text} (ha : Text.isBlank a = true) (t : Text) :
    mentions (a ++ t) = mentions t := by
  induction a with
  | nil => rfl
  | cons d a ih =>
    unfold Text.isBlank at ha ih
    rw [List.all_cons, Bool.and_eq_true] at ha
    have hcons := mentions_append_cons (isDelimiter_of_isBlank ha.1) [] (a ++ t)
    rw [mentions, List.nil_append, List.nil_append] at hcons
    rw [List.cons_append, hcons, ih ha.2]

/-- Blank characters around a text add no URL to it. -/
theorem find_blank_append_blank {a b : Text} (ha : Text.isBlank a = true)
    (hb : Text.isBlank b = true) (t : Text) : find (a ++ t ++ b) = find t := by
  unfold find
  rw [mentions_append_blank _ hb, mentions_blank_append ha]

/-! ## URLs between delimiters -/

theorem isDelimiter_iff {c : Char} : isDelimiter c = true ↔
    isBlank c = true ∨ c ∈ ['<', '>', '(', ')', '[', ']'] := by
  unfold isDelimiter
  rw [Bool.or_eq_true, List.contains_iff_mem]

/-- A URL that is found is a mention without the punctuation marks at its end. -/
theorem exists_mention_of_mem_find {t u : Text} (h : u ∈ find t) :
    isUrl u = true ∧ ∃ m, IsMention m ∧ u = dropEndWhile isSentenceMark m := by
  obtain ⟨hu, hurl⟩ := List.mem_filter.1 h
  obtain ⟨m, hm, rfl⟩ := List.mem_map.1 hu
  exact ⟨hurl, m, (searched_mentions t).isMention m hm, rfl⟩

/-- The URLs of a text are those on the left of a delimiter and those on its right, whatever stands
there. Each of them is a URL on its own, has no delimiter in it and does not end in a punctuation
mark. They are the mentions that a search from left to right finds, without such marks at their
ends, as far as these are URLs. -/
theorem find_splits_at_delimiters :
    (∀ (a b : Text) (d : Char), isBlank d = true ∨ d ∈ ['<', '>', '(', ')', '[', ']'] →
      find (a ++ d :: b) = find a ++ find b) ∧
    (∀ t u, u ∈ find t → isUrl u = true ∧
      (∀ c ∈ u, isBlank c = false ∧ c ∉ ['<', '>', '(', ')', '[', ']']) ∧
      ∀ c ∈ u.getLast?, c ∉ ['.', ',', ';', ':', '!', '?']) ∧
    ∀ t us, Searched t us → find t = (us.map (dropEndWhile isSentenceMark)).filter isUrl := by
  refine ⟨fun a b d hd => find_append_cons (isDelimiter_iff.2 hd) a b, fun t u hu => ?_,
    fun t us hus => ?_⟩
  · obtain ⟨hurl, m, hm, rfl⟩ := exists_mention_of_mem_find hu
    refine ⟨hurl, fun c hc => ?_, fun c hc => ?_⟩
    · have hout := hm.not_isDelimiter ((prefix_dropEndWhile _ _).subset hc)
      rwa [← Bool.not_eq_true, isDelimiter_iff, not_or, Bool.not_eq_true] at hout
    · have hmark := getLast?_dropEndWhile hc
      unfold isSentenceMark at hmark
      rwa [← Bool.not_eq_true, List.contains_iff_mem] at hmark
  · rw [searched_iff.1 hus]
    rfl

/-- A link between parentheses, and one behind a bracket, with punctuation marks behind both. -/
theorem find_splits_at_delimiters_brackets :
    find "See (https://example.com/a,), or [b]c://d?".toList =
      find "See (https://example.com/a,".toList ++ find ", or [b]c://d?".toList ∧
    "c://d".toList ∈ find ", or [b]c://d?".toList ∧ isUrl "c://d".toList = true ∧
    (∀ c ∈ "c://d".toList, isBlank c = false ∧ c ∉ ['<', '>', '(', ')', '[', ']']) ∧
    (∀ c ∈ "c://d".toList.getLast?, c ∉ ['.', ',', ';', ':', '!', '?']) ∧
    ∃ us, Searched ", or [b]c://d?".toList us ∧ us = ["c://d?".toList] ∧
      find ", or [b]c://d?".toList = (us.map (dropEndWhile isSentenceMark)).filter isUrl := by
  obtain ⟨hsplit, hfound, hsearch⟩ := find_splits_at_delimiters
  have hmem : "c://d".toList ∈ find ", or [b]c://d?".toList := by decide +kernel
  have hus := searched_mentions ", or [b]c://d?".toList
  exact ⟨hsplit "See (https://example.com/a,".toList ", or [b]c://d?".toList ')'
    (Or.inr (by decide)), hmem, (hfound _ _ hmem).1, (hfound _ _ hmem).2.1, (hfound _ _ hmem).2.2,
    _, hus, by decide +kernel, hsearch _ _ hus⟩

end CommitStyle.Url
