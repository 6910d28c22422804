import CommitStyle.Proofs.Text.Piece

/-!
# Lines put together

`Text.assembled` puts lines one below the other, each with a line break of its own kind in front of
it. Cutting takes back what was added : the line feed is where the text is cut, and the one carriage
return that is dropped is the one of the break (`Text.lines_break`). By induction on the lines below
the first, all of them come back (`Text.lines_of_unreturned`). Every text is assembled from its
lines (`Text.exists_assembled`), but for a carriage return behind its last line.
-/

namespace CommitStyle

/-- A line break. -/
inductive LineBreak where
  | feed | returnFeed
  deriving DecidableEq, Repr

def LineBreak.text : LineBreak → Text
  | .feed => ['\n']
  | .returnFeed => ['\r', '\n']

namespace Text

/-- The first line and the others below it, each with the break that is above it. -/
def assembled (first : Line) (below : List (LineBreak × Line)) : Text :=
  first.text ++ below.flatMap fun (b, l) => b.text ++ l.text

theorem assembled_cons (first : Line) (b : LineBreak) (l : Line)
    (below : List (LineBreak × Line)) :
    assembled first ((b, l) :: below) = first.text ++ (b.text ++ assembled l below) := by
  simp [assembled]

/-! ## Lines of assembled texts -/

theorem lines_text {l : Line} (hl : l.text.getLast? ≠ some '\r') : lines l.text = [l] := by
  have hline : Line.ofPiece l.text l.unbroken = l := Line.ext (if_neg hl)
  rw [lines_of_not_mem l.unbroken, hline]

/-- The line above a break comes back without the break. -/
theorem lines_break {l : Line} (hl : l.text.getLast? ≠ some '\r') (b : LineBreak) (t : Text) :
    lines (l.text ++ (b.text ++ t)) = l :: lines t := by
  cases b with
  | feed =>
    show lines (l.text ++ '\n' :: t) = _
    rw [lines_append, lines_text hl, List.singleton_append]
  | returnFeed =>
    -- The text is cut behind the carriage return, which is then dropped from the line.
    have hbreak : '\n' ∉ l.text ++ ['\r'] := by simpa using l.unbroken
    have hline : Line.ofPiece (l.text ++ ['\r']) hbreak = l := by
      refine Line.ext ?_
      show dropReturn (l.text ++ ['\r']) = l.text
      unfold dropReturn
      rw [List.getLast?_concat, if_pos rfl, List.dropLast_concat]
    have ht : l.text ++ (LineBreak.returnFeed.text ++ t) = (l.text ++ ['\r']) ++ '\n' :: t := by
      simp [LineBreak.text]
    rw [ht, lines_append, lines_of_not_mem hbreak, hline, List.singleton_append]

theorem lines_of_unreturned (below : List (LineBreak × Line)) : ∀ first : Line,
    (∀ l ∈ first :: below.map Prod.snd, l.text.getLast? ≠ some '\r') →
      lines (assembled first below) = first :: below.map Prod.snd := by
  induction below with
  | nil =>
    intro first h
    rw [assembled, List.flatMap_nil, List.append_nil, List.map_nil]
    exact lines_text (h first List.mem_cons_self)
  | cons next below ih =>
    intro first h
    obtain ⟨b, l⟩ := next
    rw [assembled_cons, lines_break (h first List.mem_cons_self),
      ih l fun k hk => h k (List.mem_cons_of_mem _ hk), List.map_cons]

/-! ## Lines of any text -/

theorem length_lines (t : Text) : (lines t).length = t.count '\n' + 1 := by
  induction t using lineInduction with
  | line p hp => rw [lines_of_not_mem hp, List.count_eq_zero_of_not_mem hp, List.length_singleton]
  | above p t hp ih =>
    rw [lines_append, List.length_append, ih, lines_of_not_mem hp, List.length_singleton,
      List.count_append, List.count_eq_zero_of_not_mem hp, List.count_cons_self]
    omega

/-- A piece is its line, or its line and a carriage return. -/
theorem dropReturn_cases (p : Text) : p = dropReturn p ∨ p = dropReturn p ++ ['\r'] := by
  unfold dropReturn
  split
  · next h =>
    obtain ⟨q, rfl⟩ := List.getLast?_eq_some_iff.1 h
    rw [List.dropLast_concat]
    exact Or.inr rfl
  · exact Or.inl rfl

/-- A carriage return in front of a line feed is part of the break. -/
theorem exists_lineBreak (p : Text) : ∃ b : LineBreak, p ++ ['\n'] = dropReturn p ++ b.text := by
  rcases dropReturn_cases p with hp | hp
  · exact ⟨.feed, congrArg (· ++ ['\n']) hp⟩
  · refine ⟨.returnFeed, (congrArg (· ++ ['\n']) hp).trans ?_⟩
    rw [List.append_assoc]
    rfl

theorem exists_assembled (t : Text) : ∃ first below, lines t = first :: below.map Prod.snd ∧
    (t = assembled first below ∨ t = assembled first below ++ ['\r']) := by
  induction t using lineInduction with
  | line p hp =>
    refine ⟨Line.ofPiece p hp, [], lines_of_not_mem hp, ?_⟩
    rw [assembled, List.flatMap_nil, List.append_nil]
    exact dropReturn_cases p
  | above p t hp ih =>
    obtain ⟨first, below, hlines, ht⟩ := ih
    obtain ⟨b, hb⟩ := exists_lineBreak p
    refine ⟨Line.ofPiece p hp, (b, first) :: below, ?_, ?_⟩
    · rw [lines_append, lines_of_not_mem hp, hlines, List.map_cons, List.singleton_append]
    · have happend : p ++ '\n' :: t = dropReturn p ++ (b.text ++ t) := by
        rw [List.append_cons, hb, List.append_assoc]
      have hline : (Line.ofPiece p hp).text = dropReturn p := rfl
      rw [assembled_cons, hline, happend]
      refine ht.imp (fun ht => ?_) fun ht => ?_
      · rw [← ht]
      · rw [List.append_assoc, List.append_assoc, ← ht]

/-- Lines that do not end in a carriage return are the lines of the text they make up, whatever
breaks are between them. A text has one line more than it has line feeds, with no line feed in any
of them, and is made up of its lines, but for a carriage return at its very end. -/
theorem lines_assembled :
    (∀ first (below : List (LineBreak × Line)),
      (∀ l ∈ first :: below.map Prod.snd, l.text.getLast? ≠ some '\r') →
        lines (assembled first below) = first :: below.map Prod.snd) ∧
    ∀ t, (lines t).length = t.count '\n' + 1 ∧ (∀ l ∈ lines t, '\n' ∉ l.text) ∧
      ∃ first below, lines t = first :: below.map Prod.snd ∧
        (t = assembled first below ∨ t = assembled first below ++ ['\r']) :=
  ⟨fun first below => lines_of_unreturned below first,
    fun t => ⟨length_lines t, fun l _ => l.unbroken, exists_assembled t⟩⟩

/-- A carriage return within a line stays, and so does an empty line. -/
theorem lines_assembled_mixed :
    let first : Line := ⟨"core: add\rparser".toList, by decide⟩
    let below : List (LineBreak × Line) := [(.returnFeed, ⟨[], by decide⟩),
      (.feed, ⟨"It reads.".toList, by decide⟩), (.returnFeed, ⟨[], by decide⟩)]
    assembled first below = "core: add\rparser\r\n\nIt reads.\r\n".toList ∧
      (∀ l ∈ first :: below.map Prod.snd, l.text.getLast? ≠ some '\r') ∧
      lines (assembled first below) = first :: below.map Prod.snd := by
  intro first below
  have hends : ∀ l ∈ first :: below.map Prod.snd, l.text.getLast? ≠ some '\r' := by decide
  exact ⟨by decide, hends, lines_assembled.1 first below hends⟩

end Text
end CommitStyle
