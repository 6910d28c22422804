import CommitStyle.Message.Paragraph
import CommitStyle.Proofs.Text.Trim

/-!
# Line breaks of either kind

A line break is a line feed, or a carriage return and a line feed. In a text whose carriage returns
all belong to line breaks (`Text.ReturnsPaired`), `Text.unified` writes every break as a line feed,
which is to take the carriage returns out (`Text.unified_eq_withoutReturns`). Every way of cutting
a text commutes with that : trimming, cutting at line feeds, cutting out code and cutting into
paragraphs. The lines of the text do not change at all (`Text.lines_withoutReturns`).
-/

namespace CommitStyle.Text

/-! ## Paired carriage returns -/

/-- Every carriage return stands right before a line feed. -/
def ReturnsPaired : Text → Prop
  | [] => True
  | c :: rest => (c = '\r' → rest.head? = some '\n') ∧ ReturnsPaired rest

instance decidableReturnsPaired : (t : Text) → Decidable (ReturnsPaired t)
  | [] => .isTrue trivial
  | c :: rest =>
    have := decidableReturnsPaired rest
    inferInstanceAs (Decidable ((c = '\r' → rest.head? = some '\n') ∧ ReturnsPaired rest))

/-- The text with a line feed for every carriage return and line feed. -/
def unified : Text → Text
  | [] => []
  | '\r' :: '\n' :: rest => '\n' :: unified rest
  | c :: rest => c :: unified rest

/-- The text without its carriage returns. -/
def withoutReturns (t : Text) : Text :=
  t.filter (· ≠ '\r')

@[simp] theorem withoutReturns_nil : withoutReturns [] = [] := rfl

@[simp] theorem withoutReturns_return (t : Text) :
    withoutReturns ('\r' :: t) = withoutReturns t := rfl

@[simp] theorem withoutReturns_pair (t : Text) :
    withoutReturns ('\r' :: '\n' :: t) = '\n' :: withoutReturns t := rfl

theorem withoutReturns_cons {c : Char} (hc : c ≠ '\r') (t : Text) :
    withoutReturns (c :: t) = c :: withoutReturns t :=
  List.filter_cons_of_pos (by simpa using hc)

theorem withoutReturns_append (a b : Text) :
    withoutReturns (a ++ b) = withoutReturns a ++ withoutReturns b :=
  List.filter_append ..

theorem withoutReturns_eq_self {t : Text} (h : '\r' ∉ t) : withoutReturns t = t :=
  List.filter_eq_self.2 fun c hc => by simpa using ne_of_mem_of_not_mem hc h

theorem return_not_mem_withoutReturns (t : Text) : '\r' ∉ withoutReturns t := by
  simp [withoutReturns]

namespace ReturnsPaired

theorem append {a b : Text} (ha : ReturnsPaired a) (hb : ReturnsPaired b) :
    ReturnsPaired (a ++ b) := by
  induction a with
  | nil => exact hb
  | cons c a ih =>
    refine ⟨fun hc => ?_, ih ha.2⟩
    change (a ++ b).head? = _
    rw [List.head?_append, ha.1 hc]
    rfl

/-- What follows a carriage return starts with its line feed. -/
theorem eq_feed_cons {t : Text} (h : ReturnsPaired ('\r' :: t)) : ∃ rest, t = '\n' :: rest :=
  List.head?_eq_some_iff.1 (h.1 rfl)

theorem of_append_right {a b : Text} (h : ReturnsPaired (a ++ b)) : ReturnsPaired b := by
  induction a with
  | nil => exact h
  | cons c a ih => exact ih h.2

/-- The start of the text is paired too, unless it ends between a carriage return and its line
feed. -/
theorem of_append_left {a b : Text} (h : ReturnsPaired (a ++ b)) (hend : a.getLast? ≠ some '\r') :
    ReturnsPaired a := by
  induction a with
  | nil => trivial
  | cons c a ih =>
    cases a with
    | nil => exact ⟨fun hc => absurd (by rw [hc]; rfl) hend, trivial⟩
    | cons d a => exact ⟨fun hc => h.1 hc, ih h.2 (by rwa [List.getLast?_cons_cons] at hend)⟩

/-- A carriage return at the end of the start of the text has its line feed in the rest. -/
theorem head?_of_getLast? {a b : Text} (h : ReturnsPaired (a ++ b))
    (hend : a.getLast? = some '\r') : b.head? = some '\n' := by
  obtain ⟨a', rfl⟩ := List.getLast?_eq_some_iff.1 hend
  rw [List.append_assoc] at h
  exact h.of_append_right.1 rfl

theorem suffix {a t : Text} (h : ReturnsPaired t) (hs : a <:+ t) : ReturnsPaired a := by
  obtain ⟨b, rfl⟩ := hs
  exact of_append_right h

/-- Without line feeds there is nothing to pair a carriage return with. -/
theorem return_not_mem {t : Text} (h : ReturnsPaired t) (hn : '\n' ∉ t) : '\r' ∉ t := by
  intro hr
  obtain ⟨a, b, rfl⟩ := List.append_of_mem hr
  obtain ⟨rest, rfl⟩ := h.of_append_right.eq_feed_cons
  simp at hn

end ReturnsPaired

theorem unified_eq_withoutReturns {t : Text} (h : ReturnsPaired t) :
    unified t = withoutReturns t := by
  fun_induction unified t with
  | case1 => rfl
  | case2 rest ih =>
    rw [ih h.2.2, withoutReturns_pair]
  | case3 c rest hne ih =>
    have hc : c ≠ '\r' := by
      rintro rfl
      obtain ⟨rest', rfl⟩ := h.eq_feed_cons
      exact hne rest' rfl rfl
    rw [ih h.2, withoutReturns_cons hc]

/-! ## Walking over a text -/

section Walk

variable {p : Char → Bool}

/-- Where carriage returns are walked over, it makes no difference that they are missing. -/
theorem takeWhile_withoutReturns (hp : p '\r' = true) (t : Text) :
    (withoutReturns t).takeWhile p = withoutReturns (t.takeWhile p) := by
  unfold withoutReturns
  rw [List.takeWhile_filter]
  congr 2
  funext c
  by_cases hc : c = '\r' <;> simp [hc, hp]

theorem dropWhile_withoutReturns (hp : p '\r' = true) (t : Text) :
    (withoutReturns t).dropWhile p = withoutReturns (t.dropWhile p) := by
  unfold withoutReturns
  rw [List.dropWhile_filter]
  congr 2
  funext c
  by_cases hc : c = '\r' <;> simp [hc, hp]

/-- A walk that stops at line breaks of both kinds stops at the same place. -/
theorem takeWhile_withoutReturns_of_break (hr : p '\r' = false) (hn : p '\n' = false) {t : Text}
    (h : ReturnsPaired t) : (withoutReturns t).takeWhile p = t.takeWhile p := by
  induction t with
  | nil => rfl
  | cons c t ih =>
    by_cases hc : c = '\r'
    · subst hc
      obtain ⟨rest, rfl⟩ := h.eq_feed_cons
      rw [withoutReturns_pair]
      simp [hr, hn]
    · rw [withoutReturns_cons hc, List.takeWhile_cons, List.takeWhile_cons, ih h.2]

theorem dropWhile_withoutReturns_of_break (hr : p '\r' = false) (hn : p '\n' = false) {t : Text}
    (h : ReturnsPaired t) : (withoutReturns t).dropWhile p = withoutReturns (t.dropWhile p) := by
  induction t with
  | nil => rfl
  | cons c t ih =>
    by_cases hc : c = '\r'
    · subst hc
      obtain ⟨rest, rfl⟩ := h.eq_feed_cons
      rw [List.dropWhile_cons_of_neg (by simp [hr]), withoutReturns_pair,
        List.dropWhile_cons_of_neg (by simp [hn])]
    · rw [withoutReturns_cons hc, List.dropWhile_cons, List.dropWhile_cons]
      split
      · exact ih h.2
      · rw [withoutReturns_cons hc]

/-- A test of the first character that holds of no part of a line break. -/
theorem map_head?_withoutReturns (hr : p '\r' = false) (hn : p '\n' = false) {t : Text}
    (h : ReturnsPaired t) :
    ((withoutReturns t).head?.map p).getD false = (t.head?.map p).getD false := by
  cases t with
  | nil => rfl
  | cons c t =>
    by_cases hc : c = '\r'
    · subst hc
      obtain ⟨rest, rfl⟩ := h.eq_feed_cons
      rw [withoutReturns_pair]
      simp [hr, hn]
    · rw [withoutReturns_cons hc]
      rfl

theorem reverse_withoutReturns (t : Text) :
    (withoutReturns t).reverse = withoutReturns t.reverse := by
  unfold withoutReturns
  exact List.filter_reverse.symm

theorem dropEndWhile_withoutReturns (hp : p '\r' = true) (t : Text) :
    dropEndWhile p (withoutReturns t) = withoutReturns (dropEndWhile p t) := by
  unfold dropEndWhile
  rw [reverse_withoutReturns, dropWhile_withoutReturns hp, reverse_withoutReturns]

/-- The carriage return of a line break is all there is to take out of the line before it. -/
theorem dropEndWhile_return {t : Text} (h : ReturnsPaired t) :
    dropEndWhile (· == '\r') (t.takeWhile (· ≠ '\n')) =
      withoutReturns (t.takeWhile (· ≠ '\n')) := by
  induction t with
  | nil => rfl
  | cons c t ih =>
    by_cases hn : c = '\n'
    · subst hn
      rfl
    by_cases hr : c = '\r'
    · subst hr
      obtain ⟨rest, rfl⟩ := h.eq_feed_cons
      rfl
    · rw [List.takeWhile_cons_of_pos (by simpa using hn), withoutReturns_cons hr,
        dropEndWhile_cons (by simpa using hr), ih h.2]

theorem lastWord_withoutReturns (t : Text) :
    lastWord (withoutReturns t) = withoutReturns (lastWord t) := by
  unfold lastWord
  rw [reverse_withoutReturns, takeWhile_withoutReturns (by decide), reverse_withoutReturns]

end Walk

/-! ## Trimming -/

theorem trim_withoutReturns (t : Text) : trim (withoutReturns t) = withoutReturns (trim t) := by
  unfold trim trimEnd trimStart
  rw [dropWhile_withoutReturns (by decide), dropEndWhile_withoutReturns (by decide)]

theorem head?_withoutReturns {t : Text} (h : t.head? ≠ some '\r') :
    (withoutReturns t).head? = t.head? := by
  cases t with
  | nil => rfl
  | cons c t => rw [withoutReturns_cons (by simpa using h)]; rfl

theorem head?_trim_ne_return (t : Text) : (trim t).head? ≠ some '\r' :=
  fun h => absurd (isBlank_head_trim h) (by decide)

theorem getLast?_trim_ne_return (t : Text) : (trim t).getLast? ≠ some '\r' :=
  fun h => absurd (isBlank_getLast_trim h) (by decide)

theorem withoutReturns_trim_eq_nil_iff {t : Text} :
    withoutReturns (trim t) = [] ↔ trim t = [] := by
  rw [← List.head?_eq_none_iff, head?_withoutReturns (head?_trim_ne_return t),
    List.head?_eq_none_iff]

theorem trim?_withoutReturns (t : Text) :
    trim? (withoutReturns t) = (trim? t).map withoutReturns := by
  unfold trim?
  simp only [trim_withoutReturns, withoutReturns_trim_eq_nil_iff]
  split <;> rfl

theorem ReturnsPaired.trim {t : Text} (h : ReturnsPaired t) : ReturnsPaired t.trim := by
  obtain ⟨rest, hrest⟩ := prefix_dropEndWhile CommitStyle.isBlank (trimStart t)
  have hstart : ReturnsPaired (trimStart t) := h.suffix (List.dropWhile_suffix _)
  rw [← hrest] at hstart
  exact hstart.of_append_left (getLast?_trim_ne_return t)

theorem ReturnsPaired.trim? {t u : Text} (h : ReturnsPaired t) (hu : t.trim? = some u) :
    ReturnsPaired u := by
  unfold Text.trim? at hu
  split at hu
  · cases hu
  · cases hu
    exact h.trim

/-! ## Lines -/

theorem pieces_withoutReturns (t : Text) :
    pieces '\n' (withoutReturns t) = (pieces '\n' t).map withoutReturns := by
  induction t with
  | nil => rfl
  | cons c t ih =>
    obtain ⟨p, ps, hp⟩ := List.exists_cons_of_ne_nil (pieces_ne_nil '\n' t)
    by_cases hc : c = '\r'
    · subst hc
      rw [withoutReturns_return, ih, pieces, if_neg (by decide), hp]
      rfl
    · rw [withoutReturns_cons hc, pieces, pieces, ih, hp]
      split
      · rfl
      · simp [withoutReturns_cons hc]

/-- A carriage return in a piece between line feeds is its last character. -/
theorem dropReturn_of_mem_pieces {t p : Text} (h : ReturnsPaired t) (hp : p ∈ pieces '\n' t) :
    dropReturn p = withoutReturns p := by
  induction t generalizing p with
  | nil =>
    rw [pieces, List.mem_singleton] at hp
    subst hp
    rfl
  | cons c t ih =>
    obtain ⟨q, qs, hq⟩ := List.exists_cons_of_ne_nil (pieces_ne_nil '\n' t)
    rw [pieces] at hp
    split at hp
    · rcases List.mem_cons.1 hp with rfl | hp
      · rfl
      · exact ih h.2 hp
    rw [hq, List.modifyHead_cons, List.mem_cons] at hp
    rcases hp with rfl | hp
    · by_cases hc : c = '\r'
      · subst hc
        obtain ⟨rest, rfl⟩ := h.eq_feed_cons
        rw [pieces, if_pos rfl] at hq
        cases hq
        rfl
      · have hdrop : dropReturn (c :: q) = c :: dropReturn q := by
          unfold dropReturn
          cases q with
          | nil => simp [hc]
          | cons d q => rw [List.getLast?_cons_cons]; split <;> rfl
        rw [hdrop, withoutReturns_cons hc, ih h.2 (hq ▸ List.mem_cons_self)]
    · exact ih h.2 (hq ▸ List.mem_cons_of_mem _ hp)

/-- The lines of a text do not show how its line breaks were written. -/
theorem lines_withoutReturns {t : Text} (h : ReturnsPaired t) :
    lines (withoutReturns t) = lines t := by
  refine (List.map_inj_right fun _ _ => Line.ext).1 ?_
  rw [map_text_lines, map_text_lines, pieces_withoutReturns, List.map_map]
  refine List.map_congr_left fun p hp => ?_
  have hdrop : dropReturn (withoutReturns p) = withoutReturns p := by
    unfold dropReturn
    rw [if_neg fun hl => return_not_mem_withoutReturns p (List.mem_of_getLast? hl)]
  rw [Function.comp_apply, hdrop, dropReturn_of_mem_pieces h hp]

/-! ## Cutting at a pattern -/

section Pattern

variable {p t : Text}

theorem not_isPrefixOf_return (hne : p ≠ []) (hr : '\r' ∉ p) :
    p.isPrefixOf ('\r' :: t) = false := by
  cases p with
  | nil => exact absurd rfl hne
  | cons d p =>
    have hd : d ≠ '\r' := fun hd => hr (hd ▸ List.mem_cons_self)
    rw [List.isPrefixOf, beq_false_of_ne hd, Bool.false_and]

theorem isPrefixOf_withoutReturns (hn : '\n' ∉ p) (hr : '\r' ∉ p) (h : ReturnsPaired t) :
    p.isPrefixOf (withoutReturns t) = p.isPrefixOf t := by
  induction p generalizing t with
  | nil => cases t <;> rfl
  | cons d p ih =>
    cases t with
    | nil => rfl
    | cons c t =>
      by_cases hc : c = '\r'
      · subst hc
        obtain ⟨rest, rfl⟩ := h.eq_feed_cons
        rw [withoutReturns_pair]
        have hdn : d ≠ '\n' := fun hd => hn (hd ▸ List.mem_cons_self)
        have hdr : d ≠ '\r' := fun hd => hr (hd ▸ List.mem_cons_self)
        rw [List.isPrefixOf, List.isPrefixOf, beq_false_of_ne hdn, beq_false_of_ne hdr]
        rfl
      · rw [withoutReturns_cons hc, List.isPrefixOf, List.isPrefixOf,
          ih (fun hm => hn (List.mem_cons_of_mem _ hm))
            (fun hm => hr (List.mem_cons_of_mem _ hm)) h.2]

theorem drop_withoutReturns (hr : '\r' ∉ p) (hp : p.isPrefixOf t = true) :
    (withoutReturns t).drop p.length = withoutReturns (t.drop p.length) := by
  obtain ⟨rest, rfl⟩ := List.isPrefixOf_iff_prefix.1 hp
  rw [withoutReturns_append, withoutReturns_eq_self hr, List.drop_left, List.drop_left]

theorem cut_withoutReturns (hne : p ≠ []) (hn : '\n' ∉ p) (hr : '\r' ∉ p) (h : ReturnsPaired t) :
    cut p (withoutReturns t) = (cut p t).map (Prod.map withoutReturns withoutReturns) := by
  induction t with
  | nil => rw [withoutReturns_nil, cut, if_neg hne]; rfl
  | cons c t ih =>
    have hprefix := isPrefixOf_withoutReturns hn hr h
    by_cases hc : c = '\r'
    · subst hc
      rw [withoutReturns_return, ih h.2, cut, if_neg (by rw [not_isPrefixOf_return hne hr]; decide),
        Option.map_map]
      rfl
    · rw [withoutReturns_cons hc] at hprefix ⊢
      rw [cut, cut, hprefix]
      split
      · next hp =>
        rw [← withoutReturns_cons hc, drop_withoutReturns hr hp]
        rfl
      · rw [ih h.2, Option.map_map, Option.map_map]
        congr 1
        funext x
        simp [withoutReturns_cons hc]

theorem afterLast_withoutReturns (hne : p ≠ []) (hn : '\n' ∉ p) (hr : '\r' ∉ p)
    (h : ReturnsPaired t) :
    afterLast p (withoutReturns t) = (afterLast p t).map withoutReturns := by
  induction t with
  | nil => rw [withoutReturns_nil, afterLast, if_neg hne]; rfl
  | cons c t ih =>
    have hprefix := isPrefixOf_withoutReturns hn hr h
    by_cases hc : c = '\r'
    · subst hc
      rw [withoutReturns_return, ih h.2, afterLast,
        if_neg (by rw [not_isPrefixOf_return hne hr]; decide)]
      cases afterLast p t <;> rfl
    · rw [withoutReturns_cons hc] at hprefix ⊢
      rw [afterLast, afterLast, hprefix, ih h.2]
      cases afterLast p t with
      | some after => rfl
      | none =>
        simp only [Option.map_none]
        split
        · next hp =>
          rw [← withoutReturns_cons hc, drop_withoutReturns hr hp]
          rfl
        · rfl

end Pattern

end CommitStyle.Text
