import CommitStyle.Message.Fence
import CommitStyle.Proofs.Text.Piece
import CommitStyle.Proofs.Text.Trim

/-!
# Where code stands

`Text.CodeBetween t before after` says that code takes up the text from the end of `before` to the
start of `after` : a fence is there at both ends, and none any earlier or later. What is left
without code is then the two parts put together (`Text.CodeBetween.withoutCode_eq`), without a
fence in it (`Text.CodeBetween.not_fence_infix`), and a text in which code stands nowhere is left
as it is (`Text.withoutCode_cases`). What code lies between the fences makes no difference to what
is left (`Text.exists_codeBetween`).
-/

namespace CommitStyle

namespace Text

/-! ## The place of code -/

/-- Code stands between the two parts of the text. -/
structure CodeBetween (t before after : Text) : Prop where
  fenced : ∃ code, t = before ++ fence ++ code ++ fence ++ after
  /-- No fence starts in the part before. -/
  first : ¬fence <:+: before ++ fence.dropLast
  /-- No fence ends in the part after. -/
  last : ¬fence <:+: fence.tail ++ after

theorem fence_ne_nil : fence ≠ [] := by decide

/-- A text with code is left with the parts around it. -/
theorem CodeBetween.withoutCode_eq {t before after : Text} (h : t.CodeBetween before after) :
    t.withoutCode = before ++ after := by
  obtain ⟨code, rfl⟩ := h.fenced
  have hcut : cut fence (before ++ fence ++ code ++ fence ++ after) =
      some (before, code ++ fence ++ after) := by
    rw [List.append_assoc _ code, List.append_assoc _ _ after]
    exact cut_eq_of_first fence_ne_nil h.first _
  unfold withoutCode
  simp only [hcut, afterLast_eq_of_last fence_ne_nil h.last code]

/-- Behind the first fence there is another one, so code starts there. -/
theorem exists_codeBetween_of_cut {t before rest : Text} (hcut : cut fence t = some (before, rest))
    (hrest : fence <:+: rest) : ∃ after, t.CodeBetween before after := by
  obtain ⟨after, hlast⟩ := Option.ne_none_iff_exists'.1 fun h => afterLast_eq_none_iff.1 h hrest
  obtain ⟨⟨code, hcode⟩, hend⟩ := last_of_afterLast fence_ne_nil hlast
  refine ⟨after, ⟨code, ?_⟩, first_of_cut fence_ne_nil hcut, hend⟩
  rw [cut_eq_some hcut, hcode]
  simp only [List.append_assoc]

/-- A text is left as it is, or code stands in it somewhere. -/
theorem withoutCode_cases (t : Text) :
    t.withoutCode = t ∨ ∃ before after, t.CodeBetween before after := by
  cases hcut : cut fence t with
  | none => exact Or.inl (by simp only [withoutCode, hcut])
  | some parts =>
    obtain ⟨before, rest⟩ := parts
    by_cases hrest : fence <:+: rest
    · exact Or.inr ⟨before, exists_codeBetween_of_cut hcut hrest⟩
    · have hlast := afterLast_eq_none_iff.2 hrest
      exact Or.inl (by simp only [withoutCode, hcut, hlast])

/-- Backticks on the two sides of code do not add up to a fence : what is before it does not end in
one. -/
theorem CodeBetween.not_fence_infix {t before after : Text} (h : t.CodeBetween before after) :
    ¬fence <:+: before ++ after := by
  intro hin
  rcases List.infix_append_iff_ne_nil.1 hin with hin | hin | ⟨x, y, hx, -, hxy, hbefore, -⟩
  · exact h.first (hin.trans List.infix_append_left)
  · exact h.last (hin.trans List.infix_append_right)
  have htick : before.getLast? = some '\x60' := by
    obtain ⟨s, rfl⟩ := hbefore
    have hlast := List.getLast?_eq_some_getLast hx
    have hmem : x.getLast hx ∈ fence := hxy ▸ List.mem_append_left y (List.getLast_mem hx)
    have htick : ∀ c ∈ fence, c = '\x60' := by simp [fence]
    rw [List.getLast?_append, hlast, htick _ hmem]
    rfl
  obtain ⟨b, rfl⟩ := List.getLast?_eq_some_iff.1 htick
  exact h.first ⟨b, [], by simp [fence]⟩

theorem withoutCode_of_not_infix {t : Text} (h : ¬fence <:+: t) : t.withoutCode = t := by
  rcases withoutCode_cases t with heq | ⟨before, after, hcode⟩
  · exact heq
  · obtain ⟨code, rfl⟩ := hcode.fenced
    exact absurd ⟨before, code ++ fence ++ after, by simp⟩ h

/-! ## Where the parts meet -/

/-- Code is all that stands between `x` and `y` in the text. -/
def Joined (t x y : Text) : Prop :=
  ∃ before after, t.CodeBetween (before ++ x) (y ++ after)

namespace Joined

variable {t x y : Text}

theorem infix_withoutCode (h : t.Joined x y) : x ++ y <:+: t.withoutCode := by
  obtain ⟨before, after, hcode⟩ := h
  exact ⟨before, after, by rw [hcode.withoutCode_eq]; simp⟩

theorem not_fence_infix (h : t.Joined x y) : ¬fence <:+: t.withoutCode := by
  obtain ⟨before, after, hcode⟩ := h
  rw [hcode.withoutCode_eq]
  exact hcode.not_fence_infix

theorem infix_left (h : t.Joined x y) : x ++ fence <:+: t := by
  obtain ⟨before, after, hcode⟩ := h
  obtain ⟨code, rfl⟩ := hcode.fenced
  exact ⟨before, code ++ fence ++ (y ++ after), by simp⟩

theorem infix_right (h : t.Joined x y) : y <:+: t := by
  obtain ⟨before, after, hcode⟩ := h
  obtain ⟨code, rfl⟩ := hcode.fenced
  exact ⟨before ++ x ++ fence ++ code ++ fence, after, by simp⟩

theorem of_prefix {z : Text} (h : t.Joined x y) (hz : z <+: y) : t.Joined x z := by
  obtain ⟨before, after, hcode⟩ := h
  obtain ⟨rest, rfl⟩ := hz
  exact ⟨before, rest ++ after, by rwa [← List.append_assoc]⟩

end Joined

/-- What is found in the text without code is in the text as well, or is put together where the code
was. -/
theorem infix_or_joined {t p : Text} (h : p <:+: t.withoutCode) :
    p <:+: t ∨ ∃ x y, x ≠ [] ∧ y ≠ [] ∧ p = x ++ y ∧ t.Joined x y := by
  rcases withoutCode_cases t with heq | ⟨before, after, hcode⟩
  · exact Or.inl (heq ▸ h)
  have ⟨code, ht⟩ := hcode.fenced
  rw [hcode.withoutCode_eq, List.infix_append_iff_ne_nil] at h
  rcases h with h | h | ⟨x, y, hx, hy, hp, ⟨b, hb⟩, ⟨a, ha⟩⟩
  · exact Or.inl (h.trans ⟨[], fence ++ code ++ fence ++ after, by rw [ht]; simp⟩)
  · exact Or.inl (h.trans ⟨before ++ fence ++ code ++ fence, [], by rw [ht]; simp⟩)
  · exact Or.inr ⟨x, y, hx, hy, hp, b, a, by rwa [hb, ha]⟩

/-! ## Other code in the same place -/

/-- The text with code between fences, below the text above. -/
def around (above code below : Text) : Text :=
  above ++ '\n' :: (fence ++ (code ++ (fence ++ below)))

theorem trim_around {above : Text} (h : isBlank above = false) (code below : Text) :
    (around above code below).trim = around above.trimStart code below.trimEnd := by
  have htick : CommitStyle.isBlank '\x60' = false := by decide
  have hsplit (above below : Text) : around above code below =
      (above ++ '\n' :: (fence ++ (code ++ ['\x60', '\x60']))) ++ '\x60' :: below := by
    simp [around, fence]
  unfold trim
  rw [around, trimStart_append h, ← around, hsplit, trimEnd, dropEndWhile_append_cons htick,
    ← trimEnd, ← hsplit]

/-- Below lines without a fence, code starts at the first line that starts with one, and where it
ends does not depend on what comes before the next fence. -/
theorem exists_codeBetween {above : Text} (habove : ¬fence <:+: above) (below : Text) :
    ∃ after, ∀ code, (around above code below).CodeBetween (above ++ ['\n']) after := by
  have hsome : afterLast fence (fence ++ below) ≠ none := fun h =>
    afterLast_eq_none_iff.1 h List.infix_append_left
  obtain ⟨after, hafter⟩ := Option.ne_none_iff_exists'.1 hsome
  obtain ⟨⟨more, hmore⟩, hlast⟩ := last_of_afterLast fence_ne_nil hafter
  refine ⟨after, fun code => ⟨⟨code ++ more, ?_⟩, ?_, hlast⟩⟩
  · unfold around
    rw [hmore]
    simp
  · rw [List.append_assoc, List.singleton_append, infix_append_cons_iff (by decide), not_or]
    exact ⟨habove, by decide⟩

/-! ## Fenced lines -/

theorem isFence_of_mem_lines {t : Text} (h : ¬fence <:+: t) {l : Line} (hl : l ∈ lines t) :
    l.isFence = false := by
  rw [← Bool.not_eq_true]
  intro hfence
  exact h ((List.isPrefixOf_iff_prefix.1 hfence).isInfix.trans (infix_of_mem_lines hl))

/-- A fence and what stands behind it are one line. -/
theorem lines_fence_append {info : Text} (h : '\n' ∉ info) :
    ∃ l : Line, lines (fence ++ info) = [l] ∧ l.isFence = true := by
  have hbreak : '\n' ∉ fence ++ info := by
    rw [List.mem_append, not_or]
    exact ⟨by decide, h⟩
  have htexts := map_text_lines (fence ++ info)
  rw [pieces_of_not_mem hbreak, List.map_singleton] at htexts
  obtain ⟨l, hl, htext⟩ := List.map_eq_singleton_iff.1 htexts
  refine ⟨l, hl, List.isPrefixOf_iff_prefix.2 ?_⟩
  rw [htext]
  cases info with
  | nil => exact List.prefix_refl fence
  | cons c info =>
    rw [dropReturn_append fence (List.cons_ne_nil c info)]
    exact List.prefix_append _ _

end Text

theorem outsideFencesFrom_sublist (inside : Bool) (ls : List Line) :
    (outsideFencesFrom inside ls).Sublist ls := by
  induction ls generalizing inside with
  | nil => exact List.Sublist.refl []
  | cons l ls ih =>
    rw [outsideFencesFrom]
    split
    · exact (ih _).cons l
    · split
      · exact (ih _).cons l
      · exact (ih _).cons_cons l

theorem any_outsideFences_eq_false {p : Line → Bool} {ls : List Line} (h : ∀ l ∈ ls, p l = false) :
    (outsideFences ls).any p = false :=
  List.any_eq_false.2 fun l hl => by simp [h l ((outsideFencesFrom_sublist false ls).subset hl)]

/-- Outside a block all lines are kept up to the next fence. -/
theorem outsideFencesFrom_outside {ls : List Line} (h : ∀ l ∈ ls, l.isFence = false)
    (ks : List Line) : outsideFencesFrom false (ls ++ ks) = ls ++ outsideFencesFrom false ks := by
  induction ls with
  | nil => rfl
  | cons l ls ih =>
    rw [List.forall_mem_cons] at h
    rw [List.cons_append, outsideFencesFrom, h.1, ih h.2]
    rfl

theorem outsideFences_lines {t : Text} (h : ¬fence <:+: t) :
    outsideFences (Text.lines t) = Text.lines t := by
  have houtside := outsideFencesFrom_outside (fun _ hl => Text.isFence_of_mem_lines h hl) []
  rwa [List.append_nil, outsideFencesFrom, List.append_nil] at houtside

/-- Inside a block no line is kept up to the next fence. -/
theorem outsideFencesFrom_inside {ls : List Line} (h : ∀ l ∈ ls, l.isFence = false)
    (ks : List Line) : outsideFencesFrom true (ls ++ ks) = outsideFencesFrom true ks := by
  induction ls with
  | nil => rfl
  | cons l ls ih =>
    rw [List.forall_mem_cons] at h
    rw [List.cons_append, outsideFencesFrom, h.1, ← ih h.2]
    rfl

end CommitStyle
