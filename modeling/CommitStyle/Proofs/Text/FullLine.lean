import CommitStyle.Proofs.Text.LineBreak
import CommitStyle.Proofs.Text.Piece

/-!
# Lines with their breaks

`Text.fullLines` cuts a text so that nothing is lost (`Text.flatten_fullLines`) : each line keeps
its break. Without their breaks they are the rows (`Text.map_content_fullLines`). Rows that are
joined anew are, but for the carriage returns and perhaps a line feed at the very end, the lines
they come from (`Text.Lined.flatten`), also after lines have been left out (`Text.Lined.sublist`).
-/

namespace CommitStyle.Text

/-! ## Lines with their breaks -/

/-- The lines of the text, each with the line break at its end. What follows the last line feed is a
line without one, if it is anything. -/
def fullLines (t : Text) : List Text :=
  (pieces '\n' t).dropLast.map (· ++ ['\n']) ++ (pieces '\n' t).getLast?.toList.filter (· ≠ [])

/-- The line without its line break. -/
def content (l : Text) : Text :=
  if l.getLast? = some '\n' then dropReturn l.dropLast else l

/-- The lines with their breaks are the text. -/
theorem flatten_fullLines (t : Text) : (fullLines t).flatten = t := by
  have h := intercalate_pieces '\n' t
  rw [← List.dropLast_concat_getLast (pieces_ne_nil '\n' t), intercalate_append_singleton] at h
  unfold fullLines
  rw [List.getLast?_eq_some_getLast (pieces_ne_nil '\n' t), List.flatten_append]
  by_cases hnil : (pieces '\n' t).getLast (pieces_ne_nil '\n' t) = []
  · rw [hnil] at h ⊢
    simpa using h
  · simpa [hnil] using h

theorem mem_fullLines {t l : Text} (h : l ∈ fullLines t) :
    (∃ p ∈ pieces '\n' t, l = p ++ ['\n']) ∨ l ∈ pieces '\n' t := by
  unfold fullLines at h
  rcases List.mem_append.1 h with h | h
  · obtain ⟨p, hp, rfl⟩ := List.mem_map.1 h
    exact Or.inl ⟨p, List.dropLast_subset _ hp, rfl⟩
  · obtain ⟨hl, -⟩ := List.mem_filter.1 h
    exact Or.inr (List.mem_of_getLast? (Option.mem_toList.1 hl))

theorem content_append_feed (p : Text) : content (p ++ ['\n']) = dropReturn p := by
  unfold content
  rw [List.getLast?_concat, if_pos rfl, List.dropLast_concat]

theorem prefix_content (l : Text) : content l <+: l := by
  unfold content
  split
  · exact (prefix_dropReturn _).trans (List.dropLast_prefix l)
  · exact List.prefix_refl l

theorem dropReturn_cons {c : Char} (hc : c ≠ '\r') (p : Text) :
    ∃ q, dropReturn (c :: p) = c :: q := by
  unfold dropReturn
  split
  · next hlast =>
    cases p with
    | nil => exact absurd (Option.some.inj hlast) hc
    | cons d p => exact ⟨_, rfl⟩
  · exact ⟨p, rfl⟩

theorem content_of_feed_not_mem {p : Text} (h : '\n' ∉ p) : content p = p := by
  unfold content
  rw [if_neg fun hl => h (List.mem_of_getLast? hl)]

/-- The rows of a text are its lines without their breaks. -/
theorem map_content_fullLines (t : Text) : (fullLines t).map content = rows t := by
  unfold fullLines rows
  rw [List.map_append, List.map_map]
  congr 1
  · exact List.map_congr_left fun p _ => content_append_feed p
  · refine (List.map_congr_left fun p hp => ?_).trans (List.map_id _)
    obtain ⟨hp, -⟩ := List.mem_filter.1 hp
    exact content_of_feed_not_mem
      (not_mem_of_mem_pieces (List.mem_of_getLast? (Option.mem_toList.1 hp)))

/-- Every line but the last ends with its line feed. -/
theorem pairwise_fullLines (t : Text) :
    (fullLines t).Pairwise fun l _ => l.getLast? = some '\n' := by
  unfold fullLines
  refine List.pairwise_append.2 ⟨?_, ?_, ?_⟩
  · exact List.pairwise_map.2 (List.pairwise_of_forall fun p _ => List.getLast?_concat)
  · refine List.Pairwise.filter _ ?_
    cases (pieces '\n' t).getLast? with
    | none => exact List.Pairwise.nil
    | some p => exact List.pairwise_singleton _ p
  · rintro l hl - -
    obtain ⟨p, -, rfl⟩ := List.mem_map.1 hl
    exact List.getLast?_concat

/-! ## Joining the lines anew -/

/-- Lines as they are cut out of a text : a line feed at the end of every line but the last, and
nothing but a line break to tell a line from its content once carriage returns are out. -/
structure Lined (ls : List Text) : Prop where
  ended : ls.Pairwise fun l _ => l.getLast? = some '\n'
  paired : ∀ l ∈ ls, ReturnsPaired l
  content : ∀ l ∈ ls,
    withoutReturns l = content l ++ if l.getLast? = some '\n' then ['\n'] else []

theorem paired_of_flatten {ls : List Text} (hended : ls.Pairwise fun l _ => l.getLast? = some '\n')
    (h : ReturnsPaired ls.flatten) : ∀ l ∈ ls, ReturnsPaired l := by
  induction hended with
  | nil => simp
  | @cons l ls hl hls ih =>
    rw [List.flatten_cons] at h
    rintro k (_ | ⟨_, hk⟩)
    · cases ls with
      | nil => simpa using h
      | cons m ls =>
        refine h.of_append_left ?_
        rw [hl m List.mem_cons_self]
        decide
    · exact ih h.of_append_right k hk

theorem lined_fullLines {t : Text} (h : ReturnsPaired t) : Lined (fullLines t) where
  ended := pairwise_fullLines t
  paired := paired_of_flatten (pairwise_fullLines t) (by rwa [flatten_fullLines])
  content := by
    intro l hl
    have hpaired := paired_of_flatten (pairwise_fullLines t) (by rwa [flatten_fullLines]) l hl
    rcases mem_fullLines hl with ⟨p, hp, rfl⟩ | hp
    · rw [content_append_feed, List.getLast?_concat, if_pos rfl, dropReturn_of_mem_pieces h hp,
        withoutReturns_append]
      rfl
    · have hn := not_mem_of_mem_pieces hp
      rw [content_of_feed_not_mem hn, withoutReturns_eq_self (hpaired.return_not_mem hn),
        if_neg fun hl => hn (List.mem_of_getLast? hl), List.append_nil]

namespace Lined

variable {ls ks : List Text}

theorem sublist (h : Lined ls) (hs : ks.Sublist ls) : Lined ks where
  ended := h.ended.sublist hs
  paired := fun l hl => h.paired l (hs.subset hl)
  content := fun l hl => h.content l (hs.subset hl)

theorem paired_flatten (h : Lined ls) : ReturnsPaired ls.flatten := by
  have hpaired := h.paired
  clear h
  induction ls with
  | nil => trivial
  | cons l ls ih =>
    exact (hpaired l List.mem_cons_self).append
      (ih fun k hk => hpaired k (List.mem_cons_of_mem _ hk))

/-- What is lost when the contents of lines are joined anew : carriage returns, and perhaps a line
feed at the very end. -/
theorem flatten (h : Lined ls) : withoutReturns ls.flatten = joinRows (ls.map Text.content) ∨
    withoutReturns ls.flatten = joinRows (ls.map Text.content) ++ ['\n'] := by
  induction ls with
  | nil => exact Or.inl rfl
  | cons l ls ih =>
    have hl := h.content l List.mem_cons_self
    rw [List.flatten_cons, withoutReturns_append, hl]
    cases ls with
    | nil =>
      by_cases hend : l.getLast? = some '\n'
      · exact Or.inr (by simp [joinRows, hend])
      · exact Or.inl (by simp [joinRows, hend])
    | cons k ls =>
      have hjoin : joinRows ((l :: k :: ls).map Text.content) =
          (Text.content l ++ ['\n']) ++ joinRows ((k :: ls).map Text.content) := by
        unfold joinRows
        rw [List.map_cons, List.intercalate_cons_of_ne_nil (by simp)]
      rw [if_pos (List.rel_of_pairwise_cons h.ended List.mem_cons_self), hjoin]
      rcases ih (h.sublist (List.sublist_cons_self l _)) with ih | ih
      · exact Or.inl (by rw [ih])
      · exact Or.inr (by rw [ih, List.append_assoc _ (joinRows _)])

end Lined

/-! ## Rows of longer texts -/

/-- The text ends where a line starts. -/
def StartsLine (t : Text) : Prop :=
  t = [] ∨ t.getLast? = some '\n'

theorem rows_append (a b : Text) :
    rows (a ++ '\n' :: b) = (pieces '\n' a).map dropReturn ++ rows b := by
  unfold rows
  rw [pieces_append, List.dropLast_append_of_ne_nil (pieces_ne_nil '\n' b), List.getLast?_append,
    List.map_append, List.append_assoc, List.getLast?_eq_some_getLast (pieces_ne_nil '\n' b)]
  rfl

theorem rows_append_of_startsLine {above : Text} (h : StartsLine above) (below : Text) :
    rows (above ++ below) = rows above ++ rows below := by
  rcases h with rfl | h
  · rfl
  · obtain ⟨a, rfl⟩ := List.getLast?_eq_some_iff.1 h
    rw [List.append_assoc, rows_append a [], List.singleton_append, rows_append]
    simp [rows, pieces]

theorem rows_line {row : Text} (h : '\n' ∉ row) (below : Text) :
    rows (row ++ '\n' :: below) = dropReturn row :: rows below := by
  rw [rows_append, pieces_of_not_mem h]
  rfl

end CommitStyle.Text
