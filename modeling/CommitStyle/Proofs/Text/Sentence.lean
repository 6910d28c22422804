import CommitStyle.Message.Paragraph
import CommitStyle.Proofs.Text.Cut
import CommitStyle.Proofs.Text.Trim
import CommitStyle.Proofs.Url.Scheme

/-!
# Ends of sentences

A sentence ends with a URL as its last word, or with a mark (`Text.endsSentence_eq`). The mark is
one of the last two characters, so it is on the last line (`Text.endsInMark_append_feed`). The last
word reaches back to the last space, and a line break is none (`Text.lastWord_append_of_not_mem`).
The test calls itself on the character in front of a closing parenthesis, and that call is the last
one (`Text.endsSentenceWithin_eq`).
-/

namespace CommitStyle.Text

/-! ## Last words -/

theorem lastWord_append_space (a b : Text) : lastWord (a ++ ' ' :: b) = lastWord b := by
  unfold lastWord
  rw [List.reverse_append, List.reverse_cons, List.append_assoc, List.singleton_append,
    takeWhile_append_cons (by decide)]

theorem lastWord_append_of_not_mem (a : Text) {b : Text} (h : ' ' ∉ b) :
    lastWord (a ++ b) = lastWord a ++ b := by
  have hwalk : ∀ c ∈ b.reverse, decide (c ≠ ' ') = true := fun c hc =>
    decide_eq_true (ne_of_mem_of_not_mem (List.mem_reverse.1 hc) h)
  unfold lastWord
  rw [List.reverse_append, List.takeWhile_append_of_pos hwalk, List.reverse_append,
    List.reverse_reverse]

theorem lastWord_of_not_mem {t : Text} (h : ' ' ∉ t) : lastWord t = t :=
  lastWord_append_of_not_mem [] h

/-- The last word of a line is the last word of every text that ends with the line, if there is a
space before it. -/
theorem lastWord_append_of_mem (a : Text) {b : Text} (h : ' ' ∈ b) :
    lastWord (a ++ b) = lastWord b := by
  obtain ⟨u, v, rfl⟩ := List.append_of_mem h
  rw [← List.append_assoc, lastWord_append_space, lastWord_append_space]

/-! ## Marks -/

/-- The text ends with a mark, or with a closing parenthesis behind one. -/
def endsInMark (t : Text) : Bool :=
  match t.reverse with
  | [] => false
  | ')' :: before :: _ => isEnd before
  | last :: _ => isEnd last

theorem eq_append_pair (t : Text) : t = [] ∨ (∃ c, t = [c]) ∨ ∃ u d c, t = u ++ [d, c] := by
  rcases h : t.reverse with _ | ⟨c, _ | ⟨d, u⟩⟩
  · exact Or.inl (by simpa using h)
  · exact Or.inr (Or.inl ⟨c, by simpa using congrArg List.reverse h⟩)
  · exact Or.inr (Or.inr ⟨u.reverse, d, c, by simpa using congrArg List.reverse h⟩)

theorem endsInMark_singleton (c : Char) : endsInMark [c] = isEnd c := by
  unfold endsInMark
  split
  · next h => cases h
  · next h => cases h
  · next h =>
    cases h
    rfl

theorem endsInMark_concat (t : Text) {c : Char} (hc : c ≠ ')') :
    endsInMark (t ++ [c]) = isEnd c := by
  unfold endsInMark
  rw [List.reverse_concat]
  split
  · next h => cases h
  · next h => exact absurd (List.cons.inj h).1 hc
  · next h => rw [(List.cons.inj h).1]

theorem endsInMark_append_pair (t : Text) (d c : Char) :
    endsInMark (t ++ [d, c]) = if c = ')' then isEnd d else isEnd c := by
  have hpair : t ++ [d, c] = (t ++ [d]) ++ [c] := by simp
  rw [hpair]
  split
  · next hc =>
    subst hc
    unfold endsInMark
    rw [List.reverse_concat, List.reverse_concat]
    rfl
  · next hc => rw [endsInMark_concat _ hc]

/-- No mark is looked for above the last line. -/
theorem endsInMark_append_feed (t : Text) {l : Text} (hne : l ≠ []) :
    endsInMark (t ++ '\n' :: l) = endsInMark l := by
  rcases eq_append_pair l with rfl | ⟨c, rfl⟩ | ⟨u, d, c, rfl⟩
  · exact absurd rfl hne
  · rw [endsInMark_append_pair, endsInMark_singleton]
    split
    · next hc =>
      rw [hc]
      rfl
    · rfl
  · rw [← List.cons_append, ← List.append_assoc, endsInMark_append_pair, endsInMark_append_pair]

/-! ## Sentences -/

theorem endsSentence_singleton (c : Char) : endsSentence [c] = isEnd c := by
  have hurl : Url.isUrl (lastWord [c]) = false := by
    by_cases hc : c = ' '
    · subst hc
      decide
    · rw [lastWord_of_not_mem (by simpa using Ne.symm hc), Url.isUrl_singleton]
  rw [endsSentence, hurl, Bool.false_or]
  split
  · next h => cases h
  · next h => cases h
  · next h =>
    cases h
    rfl

theorem endsSentence_eq (t : Text) :
    endsSentence t = (Url.isUrl (lastWord t) || endsInMark t) := by
  rw [endsSentence]
  unfold endsInMark
  congr 1
  split
  · next h => rw [h]
  · next h =>
    rw [h, endsSentence_singleton]
    rfl
  · next hne h =>
    rw [h]
    split
    · next h => cases h
    · next h =>
      cases h
      exact (hne _ _ rfl rfl).elim
    · next h =>
      cases h
      rfl

/-! ## What is read of a text -/

/-- The word is what follows the last space, or the whole text if there is none. -/
def EndsInWord (t w : Text) : Prop :=
  ' ' ∉ w ∧ (t = w ∨ ∃ a, t = a ++ ' ' :: w)

theorem lastWord_eq_iff {t w : Text} : lastWord t = w ↔ EndsInWord t w := by
  constructor
  · rintro rfl
    by_cases h : ' ' ∈ t
    · obtain ⟨b, a, ht, hb⟩ := List.eq_append_cons_of_mem (List.mem_reverse.2 h)
      have hb' : ' ' ∉ b.reverse := by rwa [List.mem_reverse]
      have ht' : t = a.reverse ++ ' ' :: b.reverse := by
        simpa using congrArg List.reverse ht
      rw [ht', lastWord_append_space, lastWord_of_not_mem hb']
      exact ⟨hb', Or.inr ⟨_, rfl⟩⟩
    · rw [lastWord_of_not_mem h]
      exact ⟨h, Or.inl rfl⟩
  · rintro ⟨hw, rfl | ⟨a, rfl⟩⟩
    · exact lastWord_of_not_mem hw
    · rw [lastWord_append_space, lastWord_of_not_mem hw]

/-- The mark is the last character, or the one in front of a closing parenthesis. -/
theorem endsInMark_iff {t : Text} : endsInMark t = true ↔
    (∃ c, t.getLast? = some c ∧ isEnd c = true) ∨ ∃ a c, t = a ++ [c, ')'] ∧ isEnd c = true := by
  have hparen : isEnd ')' = false := by decide
  rcases eq_append_pair t with rfl | ⟨c, rfl⟩ | ⟨u, d, c, rfl⟩
  · simp [endsInMark]
  · have hshort (a : Text) (d : Char) : [c] ≠ a ++ [d, ')'] := fun h => by
      have := congrArg List.length h
      simp at this
    simp [endsInMark_singleton, hshort]
  · have hpair (a : Text) (e : Char) :
        u ++ [d, c] = a ++ [e, ')'] ↔ u = a ∧ d = e ∧ c = ')' := by
      constructor
      · intro h
        obtain ⟨rfl, hends⟩ := List.append_inj' h rfl
        cases hends
        exact ⟨rfl, rfl, rfl⟩
      · rintro ⟨rfl, rfl, rfl⟩
        rfl
    rw [endsInMark_append_pair]
    split
    · next hc =>
      subst hc
      simp [hparen, hpair]
    · next hc => simp [hpair, hc]

/-! ## Calls -/

/-- The test on the end of a text with so many calls of itself, the first one included. There is no
answer if they do not suffice. -/
def endsSentenceWithin : (calls : Nat) → Text → Option Bool
  | 0, _ => none
  | calls + 1, t =>
    if Url.isUrl (lastWord t) then some true
    else
      match t.reverse with
      | [] => some false
      | ')' :: before :: _ => endsSentenceWithin calls [before]
      | last :: _ => some (isEnd last)

/-- Nothing in front of a single character could be tested again. -/
theorem endsSentenceWithin_singleton (calls : Nat) (c : Char) :
    endsSentenceWithin (calls + 1) [c] = some (endsSentence [c]) := by
  rw [endsSentenceWithin, endsSentence_eq, endsInMark_singleton]
  split
  · next hurl => rw [hurl, Bool.true_or]
  · next hurl =>
    rw [Bool.of_not_eq_true hurl, Bool.false_or]
    split
    · next h => cases h
    · next h => cases h
    · next h =>
      cases h
      rfl

/-- Two calls suffice, for the second one is on a single character. -/
theorem endsSentenceWithin_eq (calls : Nat) (t : Text) :
    endsSentenceWithin (calls + 2) t = some (endsSentence t) := by
  rw [endsSentenceWithin, endsSentence_eq]
  split
  · next hurl => rw [hurl, Bool.true_or]
  · next hurl =>
    rw [Bool.of_not_eq_true hurl, Bool.false_or]
    unfold endsInMark
    split
    · rfl
    · rw [endsSentenceWithin_singleton, endsSentence_singleton]
    · rfl

/-- The test on the end of a text is done after two calls. A text ends like a sentence if its last
word is a URL, if its last character is a mark, or if that is a closing parenthesis with a mark in
front of it. Behind two closing parentheses only a URL does, and no single character is one. -/
theorem endsSentence_reads_last :
    (∀ t, (∀ calls, endsSentenceWithin (calls + 2) t = some (endsSentence t)) ∧
      (endsSentence t = true ↔ (∃ w, EndsInWord t w ∧ Url.isUrl w = true) ∨
        (∃ c, t.getLast? = some c ∧ c ∈ ['.', ':', '!', '?']) ∨
        ∃ a c, t = a ++ [c, ')'] ∧ c ∈ ['.', ':', '!', '?'])) ∧
    (∀ a, endsSentence (a ++ [')', ')']) = true ↔
      ∃ w, EndsInWord (a ++ [')', ')']) w ∧ Url.isUrl w = true) ∧
    ∀ c, Url.isUrl [c] = false := by
  have hurl (t : Text) : (∃ w, EndsInWord t w ∧ Url.isUrl w = true) ↔
      Url.isUrl (lastWord t) = true := by
    simp only [← lastWord_eq_iff, exists_eq_left']
  refine ⟨fun t => ⟨fun calls => endsSentenceWithin_eq calls t, ?_⟩, fun a => ?_,
    Url.isUrl_singleton⟩
  · rw [endsSentence_eq, Bool.or_eq_true, endsInMark_iff, hurl]
    simp only [isEnd, List.contains_iff_mem]
  · have hmark : endsInMark (a ++ [')', ')']) = false := by
      rw [endsInMark_append_pair]
      decide
    rw [endsSentence_eq, hmark, Bool.or_false, hurl]

end CommitStyle.Text
