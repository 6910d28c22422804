import CommitStyle.Message.Basic
import CommitStyle.Proofs.Message.Code
import CommitStyle.Proofs.Text.Layout
import CommitStyle.Proofs.Text.LetterCase

/-!
# Messages by the guidelines

A grammar of commit messages : a title with an area and a subject, paragraphs of wrapped sentences,
and lines at the end that close issues (`Guideline.Commit`). Its parts are blocks of phrases, so the
text is laid out (`Guideline.Commit.laid`), and the header, the body and the paragraphs that are cut
out of it are the parts that it was put together from.
-/

namespace CommitStyle.Guideline

open Text

/-! ## Grammar -/

/-- The first line of a message. -/
structure Title where
  area : Text
  subject : Text
  named : area ≠ []
  small : ∀ c ∈ area, c.isLower = true
  phrase : IsPhrase Char.isLower subject
  short : (area ++ ':' :: ' ' :: subject).length ≤ 50

/-- The area, a colon and the subject. -/
def Title.text (t : Title) : Text :=
  t.area ++ ':' :: ' ' :: t.subject

/-- A paragraph of the body. -/
structure Prose where
  lines : List Text
  /-- Words on every line, with a full stop behind the last one. -/
  worded : ∃ front last, lines = front ++ [last ++ ['.']] ∧
    (∀ l ∈ front, IsPhrase Char.isAlpha l) ∧ IsPhrase Char.isAlpha last
  capital : ∃ c rest, joinRows lines = c :: rest ∧ c.isUpper = true
  short : ∀ l ∈ lines, l.length ≤ 64
  /-- No line starts like a closing line. -/
  plain : ∀ l ∈ lines, ¬"Fixes ".toList <+: l ∧ ¬"Closes ".toList <+: l

/-- A line that closes an issue. -/
structure Closing where
  verb : Text
  number : Text
  known : verb = "Fixes".toList ∨ verb = "Closes".toList
  numbered : number ≠ []
  digits : ∀ c ∈ number, c.isDigit = true
  short : (verb ++ ' ' :: ("https://example.com/".toList ++ number)).length ≤ 150

/-- The verb and the URL of the issue. -/
def Closing.text (l : Closing) : Text :=
  l.verb ++ ' ' :: ("https://example.com/".toList ++ l.number)

/-- A commit message by the guidelines. -/
structure Commit where
  title : Title
  prose : List Prose
  closings : List Closing

namespace Commit

/-- The blocks of the body : the paragraphs, and the closing lines if there are any. -/
def blocks (g : Commit) : List (List Text) :=
  g.prose.map Prose.lines ++ if g.closings = [] then [] else [g.closings.map Closing.text]

/-- The title and the blocks of the body, with empty lines between them. -/
def text (g : Commit) : Text :=
  layout ([g.title.text] :: g.blocks)

/-- The message of the text. -/
def message (g : Commit) : Message :=
  ⟨g.text, g.title.text⟩

end Commit

/-! ## Characters -/

/-- The characters of words. -/
def isGraphic (c : Char) : Bool :=
  c.isAlphanum || ['.', ':', '/'].contains c

theorem isBlank_of_isGraphic (c : Char) (h : isGraphic c = true) : isBlank c = false := by
  have hblanks : (blanks.all fun d => !isGraphic d) = true := by decide
  refine Bool.eq_false_iff.2 fun hb => ?_
  simpa [h] using List.all_eq_true.1 hblanks c (List.contains_iff_mem.1 hb)

theorem isGraphic_of_isAlpha {c : Char} (h : c.isAlpha = true) : isGraphic c = true := by
  simp [isGraphic, Char.isAlphanum, h]

theorem isGraphic_of_isLower {c : Char} (h : c.isLower = true) : isGraphic c = true :=
  isGraphic_of_isAlpha (isAlpha_of_isLower h)

theorem isGraphic_of_isDigit {c : Char} (h : c.isDigit = true) : isGraphic c = true := by
  simp [isGraphic, Char.isAlphanum, h]

/-! ## Lines -/

theorem Title.isPhrase (t : Title) : IsPhrase isGraphic t.text := by
  have hsplit : t.text = (t.area ++ [':']) ++ ' ' :: t.subject := by simp [Title.text]
  rw [hsplit]
  refine IsPhrase.cons (by simp) (fun c hc => ?_) (t.phrase.mono fun c => isGraphic_of_isLower)
  rcases List.mem_append.1 hc with hc | hc
  · exact isGraphic_of_isLower (t.small c hc)
  · rw [List.mem_singleton.1 hc]
    decide

theorem Prose.isPhrase (p : Prose) {l : Text} (hl : l ∈ p.lines) : IsPhrase isGraphic l := by
  obtain ⟨front, last, hlines, hfront, hlast⟩ := p.worded
  rw [hlines, List.mem_append, List.mem_singleton] at hl
  rcases hl with hl | rfl
  · exact (hfront l hl).mono fun c => isGraphic_of_isAlpha
  · exact (hlast.mono fun c => isGraphic_of_isAlpha).concat (by decide)

theorem Closing.isPhrase (l : Closing) : IsPhrase isGraphic l.text := by
  have hverb : l.verb ≠ [] ∧ ∀ c ∈ l.verb, isGraphic c = true := by
    rcases l.known with h | h <;> rw [h] <;> simp [isGraphic]
  refine IsPhrase.cons hverb.1 hverb.2 (IsPhrase.word (by simp) fun c hc => ?_)
  rcases List.mem_append.1 hc with hc | hc
  · have hurl : ∀ c ∈ "https://example.com/".toList, isGraphic c = true := by simp [isGraphic]
    exact hurl c hc
  · exact isGraphic_of_isDigit (l.digits c hc)

/-! ## The message -/

namespace Commit

variable (g : Commit)

theorem mem_blocks {b : List Text} (h : b ∈ g.blocks) :
    (∃ p ∈ g.prose, b = p.lines) ∨ g.closings ≠ [] ∧ b = g.closings.map Closing.text := by
  rcases List.mem_append.1 h with h | h
  · obtain ⟨p, hp, rfl⟩ := List.mem_map.1 h
    exact Or.inl ⟨p, hp, rfl⟩
  · split at h
    · cases h
    · next hne => exact Or.inr ⟨hne, List.mem_singleton.1 h⟩

theorem laid_blocks : Laid isGraphic g.blocks where
  nonempty := by
    intro b hb
    rcases g.mem_blocks hb with ⟨p, -, rfl⟩ | ⟨hne, rfl⟩
    · obtain ⟨front, last, hlines, -⟩ := p.worded
      simp [hlines]
    · simpa using hne
  phrases := by
    intro b hb l hl
    rcases g.mem_blocks hb with ⟨p, -, rfl⟩ | ⟨-, rfl⟩
    · exact p.isPhrase hl
    · obtain ⟨closing, -, rfl⟩ := List.mem_map.1 hl
      exact closing.isPhrase

theorem laid : Laid isGraphic ([g.title.text] :: g.blocks) :=
  Laid.cons_iff.2 ⟨⟨List.cons_ne_nil _ _, by simpa using g.title.isPhrase⟩, g.laid_blocks⟩

theorem mem_text {c : Char} (hc : c ∈ g.text) : c = '\n' ∨ c = ' ' ∨ isGraphic c = true :=
  g.laid.mem_layout isBlank_of_isGraphic (List.cons_ne_nil _ _) hc

theorem trim_text : g.text.trim = g.text :=
  (g.laid.framed_layout (List.cons_ne_nil _ _)).trim isBlank_of_isGraphic

/-- The text is the title alone, or the title with the body below an empty line. -/
theorem text_eq : g.text =
    if g.blocks = [] then g.title.text else g.title.text ++ '\n' :: '\n' :: layout g.blocks := by
  unfold text
  split
  · next hnil => simp [hnil, layout, joinRows]
  · next hne => simp [layout_cons _ hne, joinRows]

theorem feed_not_mem_title : '\n' ∉ g.title.text :=
  Laid.not_mem_phrase isBlank_of_isGraphic g.title.isPhrase (by decide) (by decide)

theorem headerOf_text : Message.headerOf g.text = g.title.text := by
  have hreturn : g.title.text.dropEndWhile (· == '\r') = g.title.text := by
    refine g.title.isPhrase.framed.dropEndWhile fun c hc => ?_
    rw [beq_eq_false_iff_ne]
    rintro rfl
    exact absurd hc (by decide)
  unfold Message.headerOf
  rw [g.trim_text, g.text_eq]
  by_cases hnil : g.blocks = []
  · rw [if_pos hnil, if_neg g.feed_not_mem_title]
  · rw [if_neg hnil, if_pos (by simp), takeWhile_ne_append g.feed_not_mem_title, hreturn]

theorem parse_text : Message.parse g.text = .ok g.message := by
  have hne : g.text.trim ≠ [] := by
    rw [g.trim_text]
    exact (g.laid.framed_layout (List.cons_ne_nil _ _)).ne_nil
  unfold Message.parse
  rw [if_neg hne, g.headerOf_text]
  rfl

theorem rawBody_message : g.message.rawBody =
    if g.blocks = [] then none else some ('\n' :: '\n' :: layout g.blocks) := by
  unfold Message.rawBody
  rw [message, g.trim_text, g.text_eq]
  by_cases hnil : g.blocks = []
  · rw [if_pos hnil, if_pos hnil, dropWhile_ne_eq_nil_iff.2 g.feed_not_mem_title]
  · rw [if_neg hnil, if_neg hnil, dropWhile_ne_append g.feed_not_mem_title]

theorem body_message :
    g.message.body = if g.blocks = [] then none else some (layout g.blocks) := by
  unfold Message.body
  rw [g.rawBody_message]
  by_cases hnil : g.blocks = []
  · rw [if_pos hnil, if_pos hnil, Option.bind_none]
  · have hframed := g.laid_blocks.framed_layout hnil
    have htrim : trim ('\n' :: '\n' :: layout g.blocks) = layout g.blocks :=
      (trim_blank_append (a := ['\n', '\n']) rfl _).trans (hframed.trim isBlank_of_isGraphic)
    rw [if_neg hnil, if_neg hnil, Option.bind_some, trim?, htrim, if_neg hframed.ne_nil]

/-- The lines of the body, as texts. -/
theorem map_text_bodyLines : g.message.bodyLines.map Line.text = [[]].intercalate g.blocks := by
  unfold Message.bodyLines
  rw [g.body_message]
  by_cases hnil : g.blocks = []
  · rw [if_pos hnil, hnil]
    rfl
  · rw [if_neg hnil]
    exact g.laid_blocks.lines_layout isBlank_of_isGraphic hnil

/-- The closing lines are at the end of the body, below an empty line if there is anything else. -/
theorem intercalate_blocks : ∃ above : List Text,
    [[]].intercalate g.blocks = above ++ g.closings.map Closing.text ∧
      (∀ l ∈ above, l = [] ∨ ∃ p ∈ g.prose, l ∈ p.lines) ∧
      (g.closings ≠ [] → ∀ l ∈ above.getLast?, l = []) := by
  unfold blocks
  by_cases hnil : g.closings = []
  · refine ⟨[[]].intercalate (g.prose.map Prose.lines), by simp [hnil], fun l hl => ?_,
      fun hne => absurd hnil hne⟩
    rcases mem_intercalate hl with hl | ⟨b, hb, hl⟩
    · exact Or.inl hl
    · obtain ⟨p, hp, rfl⟩ := List.mem_map.1 hb
      exact Or.inr ⟨p, hp, hl⟩
  · refine ⟨((g.prose.map Prose.lines).map (· ++ [[]])).flatten, ?_, fun l hl => ?_,
      fun _ l hl => ?_⟩
    · rw [if_neg hnil, intercalate_append_singleton]
    · rw [List.map_map, ← List.flatMap_def, List.mem_flatMap] at hl
      obtain ⟨p, hp, hl⟩ := hl
      rcases List.mem_append.1 hl with hl | hl
      · exact Or.inr ⟨p, hp, hl⟩
      · exact Or.inl (List.mem_singleton.1 hl)
    · obtain hprose | ⟨front, p, hprose⟩ := List.eq_nil_or_concat' g.prose
      · simp [hprose] at hl
      · simpa [hprose, eq_comm] using hl

theorem not_mem_text {c : Char} (hfeed : c ≠ '\n') (hspace : c ≠ ' ') (hc : isGraphic c = false) :
    c ∉ g.text := by
  intro hmem
  rcases g.mem_text hmem with h | h | h
  · exact hfeed h
  · exact hspace h
  · simp [hc] at h

theorem fence_not_infix_text : ¬fence <:+: g.text := fun h =>
  g.not_mem_text (by decide) (by decide) (by decide) (h.subset (show '\x60' ∈ fence by decide))

theorem rawBody_infix {body : Text} (h : g.message.rawBody = some body) : body <:+: g.text := by
  rw [g.rawBody_message] at h
  rw [g.text_eq]
  split at h
  · cases h
  · next hne =>
    rw [if_neg hne, ← Option.some.inj h]
    exact List.infix_append_right

/-- There is no code in the body. -/
theorem bodyWithoutCode_message : g.message.bodyWithoutCode = g.message.body := by
  unfold Message.bodyWithoutCode Message.body
  cases hraw : g.message.rawBody with
  | none => rfl
  | some body =>
    have hfence : ¬fence <:+: body := fun h =>
      g.fence_not_infix_text (h.trans (g.rawBody_infix hraw))
    rw [Option.bind_some, Option.bind_some, withoutCode_of_not_infix hfence]

end Commit
end CommitStyle.Guideline
