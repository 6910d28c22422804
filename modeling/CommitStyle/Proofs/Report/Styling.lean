import CommitStyle.Proofs.Text.Cut
import CommitStyle.Report.Styled

/-!
# Styles taken off again

A style is turned on and off by a control sequence of its own kind : an escape, a bracket, numbers
and the letter `m` (`Text.afterSequence?`). `Text.unstyled` takes all of them out of a text. What is
left of a styled text that is sent with colours is the text that is sent without
(`Styled.unstyled_render`), as long as no escape stands in the text itself. The induction is on the
spans, each of which is taken off in front of any text (`Span.unstyled_render_append`).
-/

namespace CommitStyle

/-! ## Control sequences -/

/-- A character of the numbers in a control sequence. -/
def isParameter (c : Char) : Bool :=
  c.isDigit || c == ';'

namespace Text

/-- What follows the control sequence at the start of the text, if one of a style is there. -/
def afterSequence? : Text → Option Text
  | '\x1b' :: '[' :: rest =>
    match rest.dropWhile isParameter with
    | 'm' :: after => some after
    | _ => none
  | _ => none

theorem length_lt_of_afterSequence? {t after : Text} (h : afterSequence? t = some after) :
    after.length < t.length := by
  unfold afterSequence? at h
  split at h
  · next rest =>
    split at h
    · next hrest =>
      cases h
      have := (List.dropWhile_suffix isParameter (l := rest)).length_le
      rw [hrest] at this
      simp only [List.length_cons] at this ⊢
      omega
    · cases h
  · cases h

/-- The text without the control sequences of styles. -/
def unstyled (t : Text) : Text :=
  match t with
  | [] => []
  | c :: rest =>
    match _h : afterSequence? (c :: rest) with
    | some after => unstyled after
    | none => c :: unstyled rest
termination_by t.length
decreasing_by
  · exact length_lt_of_afterSequence? _h
  · simp

theorem unstyled_of_some {t after : Text} (h : afterSequence? t = some after) :
    unstyled t = unstyled after := by
  cases t with
  | nil => cases h
  | cons c t =>
    rw [unstyled]
    split
    · next h' => cases h.symm.trans h'; rfl
    · next h' => cases h.symm.trans h'

theorem unstyled_of_none {c : Char} {t : Text} (h : afterSequence? (c :: t) = none) :
    unstyled (c :: t) = c :: unstyled t := by
  rw [unstyled]
  split
  · next h' => cases h.symm.trans h'
  · rfl

theorem afterSequence?_of_ne {c : Char} (hc : c ≠ '\x1b') (t : Text) :
    afterSequence? (c :: t) = none := by
  unfold afterSequence?
  split
  · next h => exact absurd (List.cons.inj h).1 hc
  · rfl

/-- A text without an escape is left as it is, whatever follows it. -/
theorem unstyled_append {a : Text} (h : '\x1b' ∉ a) (b : Text) :
    unstyled (a ++ b) = a ++ unstyled b := by
  induction a with
  | nil => rfl
  | cons c a ih =>
    rw [List.mem_cons, not_or] at h
    rw [List.cons_append, unstyled_of_none (afterSequence?_of_ne (Ne.symm h.1) _), ih h.2]
    rfl

theorem unstyled_of_not_mem {t : Text} (h : '\x1b' ∉ t) : unstyled t = t := by
  have htext := unstyled_append h []
  rwa [List.append_nil, unstyled, List.append_nil] at htext

theorem afterSequence?_eq_some {rest after : Text}
    (h : rest.dropWhile isParameter = 'm' :: after) :
    afterSequence? ('\x1b' :: '[' :: rest) = some after := by
  simp only [afterSequence?, h]

theorem unstyled_controlSequence {code : Text} (h : ∀ c ∈ code, isParameter c = true) (t : Text) :
    unstyled (controlSequence code ++ t) = unstyled t := by
  have hsequence : controlSequence code ++ t = '\x1b' :: '[' :: (code ++ 'm' :: t) := by
    simp [controlSequence]
  -- The numbers end at the letter, so nothing of what follows is taken for a part of them.
  have hm : isParameter 'm' = false := by decide
  rw [hsequence]
  exact unstyled_of_some (afterSequence?_eq_some (dropWhile_append_cons_of_pos h hm t))

end Text

/-! ## Styled texts -/

open Text Styled

theorem Style.isParameter_code (s : Style) : ∀ c ∈ s.code, isParameter c = true :=
  List.all_eq_true.1 (by cases s <;> decide)

theorem unstyled_styles (styles : List Style) (t : Text) :
    unstyled (styles.flatMap (fun s => controlSequence s.code) ++ t) = unstyled t := by
  induction styles with
  | nil => rfl
  | cons s styles ih =>
    rw [List.flatMap_cons, List.append_assoc, unstyled_controlSequence s.isParameter_code, ih]

/-- The sequences around the text of a span are taken off, and the text is left. -/
theorem Span.unstyled_render_append {s : Span} (h : '\x1b' ∉ s.text) (t : Text) :
    unstyled (s.render true ++ t) = s.text ++ unstyled t := by
  unfold render
  split
  · rw [List.append_assoc, List.append_assoc, unstyled_styles, unstyled_append h,
      unstyled_controlSequence (List.all_eq_true.1 (by decide))]
  · exact unstyled_append h t

theorem Styled.unstyled_render {s : Styled} (h : '\x1b' ∉ s.plain) :
    unstyled (s.render true) = s.render false := by
  induction s with
  | nil => exact unstyled_of_not_mem h
  | cons span s ih =>
    have hsplit (color : Bool) :
        render color (span :: s) = span.render color ++ render color s := List.flatMap_cons ..
    rw [plain, List.flatMap_cons, List.mem_append, not_or] at h
    rw [hsplit, hsplit, Span.unstyled_render_append h.1, ih h.2]
    rfl

namespace Styled

theorem plain_append (a b : Styled) : (a ++ b).plain = a.plain ++ b.plain :=
  List.flatMap_append

theorem plain_inStyle (styles : List Style) (t : Text) : (inStyle styles t).plain = t :=
  List.flatMap_singleton ..

theorem plain_plainly (t : Text) : (plainly t).plain = t :=
  plain_inStyle [] t

theorem plain_ofString (s : String) : (ofString s).plain = s.toList :=
  plain_plainly s.toList

theorem mem_plain_flatMap {α : Type} {c : Char} {xs : List α} {f : α → Styled} :
    c ∈ plain (xs.flatMap f) ↔ ∃ x ∈ xs, c ∈ (f x).plain := by
  simp only [plain, List.flatMap_assoc, List.mem_flatMap]

end Styled

end CommitStyle
