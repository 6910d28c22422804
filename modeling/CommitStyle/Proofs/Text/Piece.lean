import CommitStyle.Text.Line
import Mathlib.Data.List.Basic
import Mathlib.Data.List.TakeWhile

/-!
# Pieces and lines

`Text.pieces` is the library's `List.splitOn` (`Text.pieces_eq_splitOn`), which gives its laws on
texts put together at a separator. A piece is a part of the text (`Text.infix_of_mem_pieces`), and
every part without a separator lies in a piece (`Text.exists_piece_of_infix`). The same holds of
lines, up to the carriage return that belongs to a line break.
-/

namespace CommitStyle.Text

/-! ## Joining lists -/

section Join

variable {α : Type} {x : α}

theorem intercalate_append_singleton (x : α) (ps : List (List α)) (p : List α) :
    [x].intercalate (ps ++ [p]) = (ps.map (· ++ [x])).flatten ++ p := by
  induction ps with
  | nil => simp
  | cons q ps ih =>
    rw [List.cons_append, List.intercalate_cons_of_ne_nil (by simp), ih]
    simp

theorem mem_intercalate {ps : List (List α)} {y : α} (h : y ∈ [x].intercalate ps) :
    y = x ∨ ∃ p ∈ ps, y ∈ p := by
  rcases List.eq_nil_or_concat' ps with rfl | ⟨ps, p, rfl⟩
  · cases h
  rw [intercalate_append_singleton, List.mem_append, List.mem_flatten] at h
  rcases h with ⟨q, hq, hy⟩ | hy
  · obtain ⟨p', hp', rfl⟩ := List.mem_map.1 hq
    rcases List.mem_append.1 hy with hy | hy
    · exact Or.inr ⟨p', List.mem_append_left _ hp', hy⟩
    · exact Or.inl (List.mem_singleton.1 hy)
  · exact Or.inr ⟨p, by simp, hy⟩

theorem prefix_intercalate (x : α) (p : List α) (ps : List (List α)) :
    p <+: [x].intercalate (p :: ps) := by
  cases ps with
  | nil => simp
  | cons q ps =>
    rw [List.intercalate_cons_of_ne_nil (List.cons_ne_nil q ps), List.append_assoc]
    exact List.prefix_append _ _

end Join

/-- A start of the list in which `p` holds of all members is no longer than the longest one. -/
theorem prefix_takeWhile {α : Type} {p : α → Bool} {s l : List α} (h : s <+: l)
    (hs : ∀ a ∈ s, p a = true) : s <+: l.takeWhile p := by
  obtain ⟨rest, rfl⟩ := h
  rw [List.takeWhile_append_of_pos hs]
  exact List.prefix_append _ _

/-! ## Pieces -/

section Piece

variable {sep : Char}

theorem pieces_eq_splitOn (sep : Char) (t : Text) : pieces sep t = t.splitOn sep := by
  induction t with
  | nil => rfl
  | cons c t ih =>
    rw [pieces, List.splitOn_cons_eq_if_modifyHead, ih]
    simp only [beq_iff_eq]

theorem pieces_append (sep : Char) (a b : Text) :
    pieces sep (a ++ sep :: b) = pieces sep a ++ pieces sep b := by
  rw [pieces_eq_splitOn, pieces_eq_splitOn, pieces_eq_splitOn, List.splitOn_append_cons_self]

theorem pieces_of_not_mem {p : Text} (h : sep ∉ p) : pieces sep p = [p] := by
  rw [pieces_eq_splitOn, List.splitOn_eq_singleton h]

theorem pieces_intercalate {ps : List Text} (hne : ps ≠ []) (h : ∀ p ∈ ps, sep ∉ p) :
    pieces sep ([sep].intercalate ps) = ps := by
  rw [pieces_eq_splitOn, List.splitOn_intercalate sep h hne]

/-- Between two separators side by side there is an empty piece. -/
theorem nil_mem_pieces {t : Text} (h : [sep, sep] <:+: t) : [] ∈ pieces sep t := by
  obtain ⟨a, b, rfl⟩ := h
  have ht : a ++ [sep, sep] ++ b = a ++ sep :: ([] ++ sep :: b) := by simp
  rw [ht, pieces_append, pieces_append]
  exact List.mem_append_right _ (List.mem_append_left _ (List.mem_singleton_self _))

/-- Two parts with separators around them are neighbours among the pieces, neither of them at an
end of the text. -/
theorem neighbours_of_infix {t p q : Text} (hp : sep ∉ p) (hq : sep ∉ q)
    (h : sep :: p ++ sep :: q ++ [sep] <:+: t) : [p, q] <:+: (pieces sep t).tail.dropLast := by
  obtain ⟨a, b, rfl⟩ := h
  obtain ⟨x, xs, hxs⟩ := List.exists_cons_of_ne_nil (pieces_ne_nil sep a)
  obtain hnil | ⟨ys, y, hys⟩ := List.eq_nil_or_concat' (pieces sep b)
  · exact absurd hnil (pieces_ne_nil sep b)
  have ht : a ++ (sep :: p ++ sep :: q ++ [sep]) ++ b =
      a ++ sep :: (p ++ sep :: (q ++ sep :: b)) := by simp
  rw [ht, pieces_append, pieces_append, pieces_append, pieces_of_not_mem hp, pieces_of_not_mem hq,
    hxs, hys]
  refine ⟨xs, ys, ?_⟩
  rw [List.cons_append, List.tail_cons, ← List.append_assoc, ← List.append_assoc,
    ← List.append_assoc, List.dropLast_concat]
  simp

/-- The first piece reaches to the first separator. -/
theorem exists_pieces_eq_cons (sep : Char) (t : Text) :
    ∃ ps, pieces sep t = t.takeWhile (· ≠ sep) :: ps := by
  induction t with
  | nil => exact ⟨[], rfl⟩
  | cons c t ih =>
    obtain ⟨ps, hps⟩ := ih
    rw [pieces, hps]
    by_cases hc : c = sep
    · exact ⟨_, by rw [if_pos hc, List.takeWhile_cons_of_neg (by simpa using hc)]⟩
    · exact ⟨ps, by
        rw [if_neg hc, List.takeWhile_cons_of_pos (by simpa using hc), List.modifyHead_cons]⟩

theorem infix_of_mem_pieces {t p : Text} (h : p ∈ pieces sep t) : p <:+: t := by
  induction t with
  | nil =>
    rw [pieces, List.mem_singleton] at h
    exact h ▸ List.nil_infix
  | cons c t ih =>
    obtain ⟨ps, hps⟩ := exists_pieces_eq_cons sep t
    rw [hps] at ih
    rw [pieces, hps] at h
    split at h
    · rcases List.mem_cons.1 h with rfl | h
      · exact List.nil_infix
      · exact List.infix_cons (ih h)
    · rcases List.mem_cons.1 h with rfl | h
      · exact ((List.prefix_cons_inj c).2 (List.takeWhile_prefix _)).isInfix
      · exact List.infix_cons (ih (List.mem_cons_of_mem _ h))

theorem prefix_takeWhile_of_not_mem {p t : Text} (hp : sep ∉ p) (h : p <+: t) :
    p <+: t.takeWhile (· ≠ sep) :=
  prefix_takeWhile h (by simpa using fun c hc => ne_of_mem_of_not_mem hc hp)

/-- A part of a text without separators is a part of one of its pieces. -/
theorem exists_piece_of_infix {t p : Text} (hp : sep ∉ p) (h : p <:+: t) :
    ∃ q ∈ pieces sep t, p <:+: q := by
  induction t with
  | nil =>
    rw [List.infix_nil.1 h]
    exact ⟨[], List.mem_singleton_self _, List.nil_infix⟩
  | cons c t ih =>
    rcases List.infix_cons_iff.1 h with h | h
    · obtain ⟨ps, hps⟩ := exists_pieces_eq_cons sep (c :: t)
      rw [hps]
      exact ⟨_, List.mem_cons_self, (prefix_takeWhile_of_not_mem hp h).isInfix⟩
    · obtain ⟨ps, hps⟩ := exists_pieces_eq_cons sep t
      obtain ⟨q, hq, hpq⟩ := ih h
      rw [hps] at hq
      rw [pieces, hps]
      split
      · exact ⟨q, List.mem_cons_of_mem _ hq, hpq⟩
      · rcases List.mem_cons.1 hq with rfl | hq
        · exact ⟨_, List.mem_cons_self, List.infix_cons hpq⟩
        · exact ⟨q, List.mem_cons_of_mem _ hq, hpq⟩

end Piece

/-! ## Lines -/

theorem prefix_dropReturn (p : Text) : dropReturn p <+: p := by
  unfold dropReturn
  split
  · exact List.dropLast_prefix p
  · exact List.prefix_refl p

theorem dropReturn_of_not_mem {p : Text} (h : '\r' ∉ p) : dropReturn p = p := by
  unfold dropReturn
  rw [if_neg fun hlast => h (List.mem_of_getLast? hlast)]

theorem map_dropReturn {ps : List Text} (h : ∀ p ∈ ps, '\r' ∉ p) : ps.map dropReturn = ps :=
  (List.map_congr_left fun p hp => dropReturn_of_not_mem (h p hp)).trans (List.map_id ps)

theorem dropReturn_append (a : Text) {b : Text} (hb : b ≠ []) :
    dropReturn (a ++ b) = a ++ dropReturn b := by
  have hlast : (a ++ b).getLast? = b.getLast? := by
    rw [List.getLast?_append, List.getLast?_eq_some_getLast hb, Option.some_or]
  unfold dropReturn
  rw [hlast, List.dropLast_append_of_ne_nil hb]
  split <;> rfl

theorem length_le_dropReturn_succ (p : Text) : p.length ≤ (dropReturn p).length + 1 := by
  unfold dropReturn
  split
  · rw [List.length_dropLast]
    omega
  · omega

/-- A shorter piece has a line that is no longer. -/
theorem length_dropReturn_le {p q : Text} (h : p <:+: q) :
    (dropReturn p).length ≤ (dropReturn q).length := by
  have hp := (prefix_dropReturn p).length_le
  have hq := length_le_dropReturn_succ q
  rcases Nat.lt_or_ge p.length q.length with hlt | hge
  · omega
  · rw [h.eq_of_length_le hge]

theorem mem_lines {t : Text} {l : Line} (h : l ∈ lines t) :
    ∃ p ∈ pieces '\n' t, l.text = dropReturn p := by
  have htext : l.text ∈ (lines t).map Line.text := List.mem_map_of_mem h
  rw [map_text_lines] at htext
  obtain ⟨p, hp, hl⟩ := List.mem_map.1 htext
  exact ⟨p, hp, hl.symm⟩

theorem exists_mem_lines {t p : Text} (h : p ∈ pieces '\n' t) :
    ∃ l ∈ lines t, l.text = dropReturn p := by
  have htext : dropReturn p ∈ (lines t).map Line.text := by
    rw [map_text_lines]
    exact List.mem_map_of_mem h
  exact List.mem_map.1 htext

/-- A part of a text without a line feed is no longer than the lines of the text are. -/
theorem length_dropReturn_le_of_infix {t p : Text} {max : Nat}
    (hlines : ∀ l ∈ lines t, l.text.length ≤ max) (hp : '\n' ∉ p) (h : p <:+: t) :
    (dropReturn p).length ≤ max := by
  obtain ⟨q, hq, hpq⟩ := exists_piece_of_infix hp h
  obtain ⟨l, hl, htext⟩ := exists_mem_lines hq
  exact (length_dropReturn_le hpq).trans (htext ▸ hlines l hl)

theorem infix_of_mem_lines {t : Text} {l : Line} (h : l ∈ lines t) : l.text <:+: t := by
  obtain ⟨p, hp, hl⟩ := mem_lines h
  rw [hl]
  exact (prefix_dropReturn p).isInfix.trans (infix_of_mem_pieces hp)

theorem lines_append (a b : Text) : lines (a ++ '\n' :: b) = lines a ++ lines b := by
  refine (List.map_inj_right fun _ _ => Line.ext).1 ?_
  rw [List.map_append, map_text_lines, map_text_lines, map_text_lines, pieces_append,
    List.map_append]

/-- A text without line feeds is one line. -/
theorem lines_of_not_mem {p : Text} (h : '\n' ∉ p) : lines p = [Line.ofPiece p h] := by
  refine (List.map_inj_right fun _ _ => Line.ext).1 ?_
  rw [map_text_lines, pieces_of_not_mem h]
  rfl

/-- Every text is one line, or a line above another text. -/
@[elab_as_elim]
theorem lineInduction {motive : Text → Prop} (line : ∀ p, '\n' ∉ p → motive p)
    (above : ∀ p t, '\n' ∉ p → motive t → motive (p ++ '\n' :: t)) (t : Text) : motive t := by
  by_cases h : '\n' ∈ t
  · obtain ⟨p, rest, ht, hp⟩ := List.eq_append_cons_of_mem h
    have hshorter : rest.length < t.length := by
      rw [ht, List.length_append, List.length_cons]
      omega
    exact ht ▸ above p rest hp (lineInduction line above rest)
  · exact line t h
termination_by t.length

theorem lines_ne_nil (t : Text) : lines t ≠ [] := by
  intro h
  have := congrArg (List.map Line.text) h
  rw [map_text_lines, List.map_nil, List.map_eq_nil_iff] at this
  exact pieces_ne_nil _ _ this

end CommitStyle.Text
