import CommitStyle.Text.Quoted

/-!
# Lines and words

A `Line` is a text without a line feed, a `Word` a line without a space. The classifiers of the
linter take lines and words, so that no caller can hand them more than one; a text that comes from
outside is checked by `Line.ofText?` or `Word.ofText?`, which name the offending text.

`Text.lines` cuts a text at its line feeds. A carriage return before a line feed, or at the very
end, belongs to the line break. `Text.rows` cuts as a terminal shows the text: no line follows the
last line break, and only a carriage return before a line feed is part of a line break.
-/

namespace CommitStyle

/-! ## Checked lines and words -/

/-- The way in which a caller broke the promise of a function. -/
inductive Misuse where
  /-- A line was promised, the text has a line feed. -/
  | lineBreak (text : Text)
  /-- A word was promised, the line has a space. -/
  | space (line : Text)
  /-- A cut at the byte `index` was promised, which is inside a character. -/
  | splitCharacter (index : Nat) (text : Text)
  deriving Repr, DecidableEq

/-- A text without a line feed. -/
structure Line where
  text : Text
  unbroken : '\n' ∉ text

/-- A line without a space. -/
structure Word where
  text : Text
  unbroken : '\n' ∉ text
  whole : ' ' ∉ text

@[ext] theorem Line.ext {l m : Line} (h : l.text = m.text) : l = m := by
  cases l; cases m; cases h; rfl

@[ext] theorem Word.ext {v w : Word} (h : v.text = w.text) : v = w := by
  cases v; cases w; cases h; rfl

/-- The text as a line, unless it has a line feed. -/
def Line.ofText? (t : Text) : Except Misuse Line :=
  if h : '\n' ∈ t then .error (.lineBreak t) else .ok ⟨t, h⟩

/-- The text as a word, unless it has a line feed or else a space. -/
def Word.ofText? (t : Text) : Except Misuse Word :=
  if h : '\n' ∈ t then .error (.lineBreak t)
  else if h' : ' ' ∈ t then .error (.space t)
  else .ok ⟨t, h, h'⟩

/-! ## Cutting a text into lines -/

namespace Text

/-- The text without one carriage return at its end. -/
def dropReturn (t : Text) : Text :=
  if t.getLast? = some '\r' then t.dropLast else t

theorem mem_of_mem_dropReturn {c : Char} {t : Text} (h : c ∈ dropReturn t) : c ∈ t := by
  rw [dropReturn] at h
  split at h
  · exact List.dropLast_subset t h
  · exact h

end Text

/-- The line of a piece between line feeds. -/
def Line.ofPiece (p : Text) (h : '\n' ∉ p) : Line :=
  ⟨p.dropReturn, fun hm => h (Text.mem_of_mem_dropReturn hm)⟩

namespace Text

/-- The lines of the text. There is one more of them than line feeds. -/
def lines (t : Text) : List Line :=
  (pieces '\n' t).pmap Line.ofPiece fun _ h => not_mem_of_mem_pieces h

@[simp] theorem map_text_lines (t : Text) :
    (lines t).map Line.text = (pieces '\n' t).map dropReturn := by
  rw [lines, List.map_pmap]
  exact List.pmap_eq_map _

/-- The lines of the text as a terminal shows them. -/
def rows (t : Text) : List Text :=
  (pieces '\n' t).dropLast.map dropReturn ++
    ((pieces '\n' t).getLast?.toList.filter (· ≠ []))

/-- The rows with a line feed between them. -/
def joinRows (rows : List Text) : Text :=
  ['\n'].intercalate rows

end Text
end CommitStyle
