/-!
# Texts

A text is the list of its characters, so that every cut of a text is an operation on lists.
`Text.pieces` cuts at a separating character, `Text.cut` at the first occurrence of a pattern
and `Text.afterLast` behind its last one. No cut loses anything: `Text.intercalate_pieces` and
`Text.cut_eq_some` put the parts together again.
-/

namespace CommitStyle

/-- A text as the list of its characters. -/
abbrev Text := List Char

namespace Text

/-! ## Cutting at a character -/

/-- The pieces between the occurrences of `sep`; a text without `sep` is one piece. -/
def pieces (sep : Char) : Text → List Text
  | [] => [[]]
  | c :: rest =>
    if c = sep then [] :: pieces sep rest else (pieces sep rest).modifyHead (c :: ·)

theorem pieces_ne_nil (sep : Char) (t : Text) : pieces sep t ≠ [] := by
  induction t with
  | nil => simp [pieces]
  | cons c rest ih =>
    rw [pieces]
    split
    · simp
    · cases h : pieces sep rest with
      | nil => exact absurd h ih
      | cons p ps => simp

/-- A piece holds no separator. -/
theorem not_mem_of_mem_pieces {sep : Char} {t p : Text} (h : p ∈ pieces sep t) : sep ∉ p := by
  induction t generalizing p with
  | nil => simp_all [pieces]
  | cons c rest ih =>
    rw [pieces] at h
    split at h
    · rcases List.mem_cons.1 h with rfl | h
      · simp
      · exact ih h
    · next hc =>
      cases hp : pieces sep rest with
      | nil => simp [hp] at h
      | cons q qs =>
        rw [hp, List.modifyHead_cons] at h
        rcases List.mem_cons.1 h with rfl | h
        · have := ih (hp ▸ List.mem_cons_self)
          simp [this, Ne.symm hc]
        · exact ih (hp ▸ List.mem_cons_of_mem _ h)

/-- The pieces with the separator between them are the text. -/
theorem intercalate_pieces (sep : Char) (t : Text) : [sep].intercalate (pieces sep t) = t := by
  induction t with
  | nil => rfl
  | cons c rest ih =>
    rw [pieces]
    cases hp : pieces sep rest with
    | nil => exact absurd hp (pieces_ne_nil sep rest)
    | cons p ps =>
      rw [hp] at ih
      split
      · next hc => simp [List.intercalate_cons_cons, ih, hc]
      · cases ps with
        | nil => simpa using ih
        | cons q qs => simpa [List.intercalate_cons_cons] using ih

/-- The part before the first space. -/
def firstWord (t : Text) : Text :=
  t.takeWhile (· ≠ ' ')

/-- The part after the last space. -/
def lastWord (t : Text) : Text :=
  (t.reverse.takeWhile (· ≠ ' ')).reverse

/-- The text without the longest end of characters in `p`. -/
def dropEndWhile (p : Char → Bool) (t : Text) : Text :=
  (t.reverse.dropWhile p).reverse

/-! ## Bytes -/

/-- The number of bytes of the text in UTF-8. -/
def byteLength : Text → Nat
  | [] => 0
  | c :: rest => c.utf8Size + byteLength rest

/-- The longest start of the text that has at most `n` bytes. -/
def takeBytes (n : Nat) : Text → Text
  | [] => []
  | c :: rest => if c.utf8Size ≤ n then c :: takeBytes (n - c.utf8Size) rest else []

/-! ## Cutting at a pattern -/

/-- The parts before and after the first occurrence of `pattern`. -/
def cut (pattern : Text) : Text → Option (Text × Text)
  | [] => if pattern = [] then some ([], []) else none
  | c :: rest =>
    if pattern.isPrefixOf (c :: rest) then some ([], (c :: rest).drop pattern.length)
    else (cut pattern rest).map fun (before, after) => (c :: before, after)

/-- The part after the last occurrence of `pattern`. -/
def afterLast (pattern : Text) : Text → Option Text
  | [] => if pattern = [] then some [] else none
  | c :: rest =>
    match afterLast pattern rest with
    | some after => some after
    | none =>
      if pattern.isPrefixOf (c :: rest) then some ((c :: rest).drop pattern.length) else none

/-- The pattern occurs in the text. -/
def contains (pattern t : Text) : Bool :=
  (cut pattern t).isSome

/-- A cut loses the pattern only. -/
theorem cut_eq_some {pattern t before after : Text} (h : cut pattern t = some (before, after)) :
    t = before ++ pattern ++ after := by
  have whole {u : Text} (hu : pattern.isPrefixOf u) : u = pattern ++ u.drop pattern.length := by
    obtain ⟨v, rfl⟩ := List.isPrefixOf_iff_prefix.1 hu
    simp
  induction t generalizing before after with
  | nil =>
    rw [cut] at h
    split at h
    · simp_all
    · simp at h
  | cons c rest ih =>
    rw [cut] at h
    split at h
    · next hp =>
      simp only [Option.some.injEq, Prod.mk.injEq] at h
      obtain ⟨rfl, rfl⟩ := h
      simpa using whole hp
    · obtain ⟨⟨b, a⟩, hba, hc⟩ := Option.map_eq_some_iff.1 h
      simp only [Prod.mk.injEq] at hc
      obtain ⟨rfl, rfl⟩ := hc
      simpa using ih hba

end Text
end CommitStyle
