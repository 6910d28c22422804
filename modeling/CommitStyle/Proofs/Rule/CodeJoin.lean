import CommitStyle.Linter
import CommitStyle.Proofs.Message.Code

/-!
# Offences around code

Three rules look for a pattern in a text without its code : a gap, a number with a hash sign, an
overlong line. Each of them is a factor of the text that is searched (`Message.hasWideGap_iff`,
`Message.hasHashNumber_iff`, `Message.hasOverlongLine_eq`), and a factor of a text without its code
is one of the text itself or lies across the place where the code was (`Text.infix_or_joined`). So
on a message that has nothing of the kind, code or not, the rules fail exactly if the two sides of
the code make up the pattern (`Rule.passes_iff_not_joined`).
-/

namespace CommitStyle

open Text

/-- The rule finds nothing wrong with the message. -/
def Rule.Passes (r : Rule) (o : Options) (m : Message) : Prop :=
  ∃ v, r.check o m = .ok v ∧ v.passed = true

theorem Rule.passes_iff {r : Rule} {o : Options} {m : Message} {b : Bool}
    (h : r.offends o m = .ok b) : r.Passes o m ↔ ¬b = true := by
  unfold Rule.Passes Rule.check
  rw [h]
  simp [Except.map, Verdict.ofOffence]

namespace Message

/-! ## Patterns as factors -/

theorem hasWideGap_iff {t : Text} :
    hasWideGap t = true ↔ ∃ c, c ≠ '.' ∧ [c, ' ', ' '] <:+: t := by
  induction t with
  | nil => simp [hasWideGap]
  | cons c t ih =>
    simp only [hasWideGap, Bool.or_eq_true, ih, List.infix_cons_iff, List.cons_prefix_cons,
      Bool.and_eq_true, bne_iff_ne, List.isPrefixOf_iff_prefix]
    constructor
    · rintro (⟨hc, hgap⟩ | ⟨d, hd, hin⟩)
      · exact ⟨c, hc, Or.inl ⟨rfl, hgap⟩⟩
      · exact ⟨d, hd, Or.inr hin⟩
    · rintro ⟨d, hd, ⟨rfl, hgap⟩ | hin⟩
      · exact Or.inl ⟨hd, hgap⟩
      · exact Or.inr ⟨d, hd, hin⟩

theorem hasHashNumber_iff {t : Text} :
    hasHashNumber t = true ↔ ∃ d : Char, d.isDigit = true ∧ ['#', d] <:+: t := by
  fun_induction hasHashNumber t with
  | case1 c rest ih =>
    simp only [Bool.or_eq_true, ih, List.infix_cons_iff (a := '#'), List.cons_prefix_cons,
      List.nil_prefix, true_and, and_true]
    constructor
    · rintro (hc | ⟨d, hd, hin⟩)
      · exact ⟨c, hc, Or.inl rfl⟩
      · exact ⟨d, hd, Or.inr hin⟩
    · rintro ⟨d, hd, rfl | hin⟩
      · exact Or.inl hd
      · exact Or.inr ⟨d, hd, hin⟩
  | case2 c rest hne ih =>
    have hfirst (d : Char) : ¬['#', d] <+: c :: rest := by
      rintro ⟨more, hmore⟩
      cases hmore
      exact hne d more rfl rfl
    simp only [ih, List.infix_cons_iff (a := c), hfirst, false_or]
  | case3 => simp

/-- No gap is wider for what is behind it, if that is no space. -/
theorem hasWideGap_append_cons {d : Char} (hd : d ≠ ' ') (a b : Text) :
    hasWideGap (a ++ d :: b) = (hasWideGap a || hasWideGap (d :: b)) := by
  have hgap : d ∉ [' ', ' '] := by simpa using hd
  induction a with
  | nil => rfl
  | cons c a ih =>
    rw [List.cons_append, hasWideGap, ih, isPrefixOf_append_cons hgap, ← Bool.or_assoc, ← hasWideGap]

theorem hasHashNumber_append_cons {d : Char} (hhash : d ≠ '#') (hdigit : d.isDigit = false)
    (a b : Text) : hasHashNumber (a ++ d :: b) = (hasHashNumber a || hasHashNumber b) := by
  have hsplit (e : Char) (he : e.isDigit = true) :
      ['#', e] <:+: a ++ d :: b ↔ ['#', e] <:+: a ∨ ['#', e] <:+: b := by
    refine infix_append_cons_iff ?_
    rw [List.mem_pair, not_or]
    refine ⟨hhash, ?_⟩
    rintro rfl
    exact absurd he (by simp [hdigit])
  rw [Bool.eq_iff_iff, Bool.or_eq_true, hasHashNumber_iff, hasHashNumber_iff, hasHashNumber_iff]
  constructor
  · rintro ⟨e, he, hin⟩
    exact ((hsplit e he).1 hin).imp (fun h => ⟨e, he, h⟩) fun h => ⟨e, he, h⟩
  · rintro (⟨e, he, hin⟩ | ⟨e, he, hin⟩)
    · exact ⟨e, he, (hsplit e he).2 (Or.inl hin)⟩
    · exact ⟨e, he, (hsplit e he).2 (Or.inr hin)⟩

theorem citesByNumber_eq (m : Message) :
    m.citesByNumber = hasHashNumber (m.rawBody.getD []).withoutCode := by
  unfold citesByNumber
  cases m.rawBody <;> rfl

theorem bodyWithoutCode_eq (m : Message) :
    m.bodyWithoutCode = (m.rawBody.getD []).withoutCode.trim? := by
  unfold bodyWithoutCode
  cases m.rawBody <;> rfl

theorem hasOverlongLine_eq (max : Nat) (m : Message) : m.hasOverlongLine max =
    (outsideFences (m.rawBody.getD []).withoutCode.trim.lines).any (isOverlong max) := by
  unfold hasOverlongLine
  rw [bodyWithoutCode_eq, trim?]
  split
  · next hnil =>
    rw [hnil]
    refine (any_outsideFences_eq_false fun l hl => ?_).symm
    rw [List.mem_singleton.1 hl, isOverlong, Line.ofPiece]
    rfl
  · rfl

/-- If the body has short lines only, an overlong line lies on both sides of the code. -/
theorem joined_of_overlong {body : Text} {max : Nat}
    (hshort : ∀ l ∈ body.lines, l.text.length ≤ max) {l : Line}
    (hl : l ∈ body.withoutCode.trim.lines) (hover : max < l.text.length) :
    ∃ x y, x ≠ [] ∧ y ≠ [] ∧ l.text = x ++ y ∧ body.Joined x y := by
  obtain ⟨p, hp, htext⟩ := mem_lines hl
  have hbreak : '\n' ∉ p := not_mem_of_mem_pieces hp
  have hin : p <:+: body.withoutCode := (infix_of_mem_pieces hp).trans (infix_trim _)
  rw [htext] at hover
  rcases infix_or_joined hin with hbody | ⟨x, y, hx, hy, rfl, hjoined⟩
  · have := length_dropReturn_le_of_infix hshort hbreak hbody
    omega
  rw [dropReturn_append x hy] at htext hover
  refine ⟨x, dropReturn y, hx, fun hnil => ?_, htext, hjoined.of_prefix (prefix_dropReturn y)⟩
  -- all of the line but a carriage return is before the code, where a backtick follows it
  have hmore : x ++ ['\x60'] <:+: body :=
    ((List.prefix_append_right_inj x).2 (by decide)).isInfix.trans hjoined.infix_left
  have hx' : '\n' ∉ x ++ ['\x60'] := by
    rw [List.mem_append, not_or] at hbreak ⊢
    exact ⟨hbreak.1, by decide⟩
  have hlen := length_dropReturn_le_of_infix hshort hx' hmore
  rw [dropReturn_append x (List.cons_ne_nil _ _), List.length_append] at hlen
  rw [hnil, List.append_nil] at hover
  omega

theorem mem_outsideFences_of_joined {t x y : Text} (h : t.Joined x y) {l : Line}
    (hl : l ∈ t.withoutCode.trim.lines) : l ∈ outsideFences t.withoutCode.trim.lines := by
  have hfence : ¬fence <:+: t.withoutCode.trim := fun hin =>
    h.not_fence_infix (hin.trans (infix_trim _))
  rwa [outsideFences_lines hfence]

end Message

/-! ## Rules that look past code -/

theorem Text.parts_of_pair {c d : Char} {x y : Text} (hx : x ≠ []) (hy : y ≠ [])
    (h : [c, d] = x ++ y) : x = [c] ∧ y = [d] := by
  cases x with
  | nil => exact absurd rfl hx
  | cons a x =>
    rw [List.cons_append, List.cons.injEq, List.singleton_eq_append_iff] at h
    obtain ⟨rfl, ⟨rfl, rfl⟩ | ⟨-, rfl⟩⟩ := h
    · exact ⟨rfl, rfl⟩
    · exact absurd rfl hy

namespace Rule

open Message

variable (o : Options) (m : Message)

theorem tooManySpaces_passes_iff (h : ¬[' ', ' '] <:+: m.raw) :
    Passes .tooManySpaces o m ↔ ¬∃ c, c ≠ '.' ∧ m.raw.Joined [c, ' '] [' '] := by
  rw [passes_iff rfl, hasTooManySpaces, hasWideGap_iff, not_iff_not]
  constructor
  · rintro ⟨c, hc, hgap⟩
    refine ⟨c, hc, ?_⟩
    rcases infix_or_joined hgap with hraw | ⟨x, y, hx, hy, hxy, hjoined⟩
    · exact absurd ((List.suffix_cons c _).isInfix.trans hraw) h
    obtain ⟨a, x, rfl⟩ := List.exists_cons_of_ne_nil hx
    rw [List.cons_append, List.cons.injEq] at hxy
    obtain ⟨rfl, hrest⟩ := hxy
    by_cases hx' : x = []
    · rw [hx', List.nil_append] at hrest
      exact absurd (hrest ▸ hjoined.infix_right) h
    · obtain ⟨rfl, rfl⟩ := parts_of_pair hx' hy hrest
      exact hjoined
  · rintro ⟨c, hc, hjoined⟩
    exact ⟨c, hc, hjoined.infix_withoutCode⟩

theorem bodySoftMaxLineLength_passes_iff
    (h : ∀ l ∈ lines (m.rawBody.getD []), l.text.length ≤ o.bodySoftMaxLineLength) :
    Passes .bodySoftMaxLineLength o m ↔ ¬∃ l ∈ (m.rawBody.getD []).withoutCode.trim.lines,
      isOverlong o.bodySoftMaxLineLength l = true ∧
        ∃ x y, x ≠ [] ∧ y ≠ [] ∧ l.text = x ++ y ∧ (m.rawBody.getD []).Joined x y := by
  rw [passes_iff rfl, hasOverlongLine_eq, List.any_eq_true, not_iff_not]
  constructor
  · rintro ⟨l, hl, hover⟩
    have hl : l ∈ (m.rawBody.getD []).withoutCode.trim.lines :=
      (outsideFencesFrom_sublist false _).subset hl
    have hlong : o.bodySoftMaxLineLength < l.text.length := by
      unfold isOverlong at hover
      simp only [Bool.and_eq_true, decide_eq_true_eq] at hover
      exact hover.1.1
    exact ⟨l, hl, hover, joined_of_overlong h hl hlong⟩
  · rintro ⟨l, hl, hover, x, y, -, -, -, hjoined⟩
    exact ⟨l, mem_outsideFences_of_joined hjoined hl, hover⟩

theorem properIssueRefs_passes_iff
    (h : ∀ d : Char, d.isDigit = true → ¬['#', d] <:+: m.rawBody.getD []) :
    Passes .properIssueRefs o m ↔
      ¬∃ d : Char, d.isDigit = true ∧ (m.rawBody.getD []).Joined ['#'] [d] := by
  rw [passes_iff rfl, citesByNumber_eq, hasHashNumber_iff, not_iff_not]
  constructor
  · rintro ⟨d, hd, hin⟩
    refine ⟨d, hd, ?_⟩
    rcases infix_or_joined hin with hbody | ⟨x, y, hx, hy, hxy, hjoined⟩
    · exact absurd hbody (h d hd)
    · obtain ⟨rfl, rfl⟩ := parts_of_pair hx hy hxy
      exact hjoined
  · rintro ⟨d, hd, hjoined⟩
    exact ⟨d, hd, hjoined.infix_withoutCode⟩

/-- A message without two spaces side by side, without a long line in its body or without a number
with a hash sign there fails the rule on these exactly if the two sides of its code make up such a
thing, code or not. -/
theorem passes_iff_not_joined :
    (¬[' ', ' '] <:+: m.raw →
      (Passes .tooManySpaces o m ↔ ¬∃ c, c ≠ '.' ∧ m.raw.Joined [c, ' '] [' '])) ∧
    ((∀ l ∈ lines (m.rawBody.getD []), l.text.length ≤ o.bodySoftMaxLineLength) →
      (Passes .bodySoftMaxLineLength o m ↔ ¬∃ l ∈ (m.rawBody.getD []).withoutCode.trim.lines,
        isOverlong o.bodySoftMaxLineLength l = true ∧
          ∃ x y, x ≠ [] ∧ y ≠ [] ∧ l.text = x ++ y ∧ (m.rawBody.getD []).Joined x y)) ∧
    ((∀ d : Char, d.isDigit = true → ¬['#', d] <:+: m.rawBody.getD []) →
      (Passes .properIssueRefs o m ↔
        ¬∃ d : Char, d.isDigit = true ∧ (m.rawBody.getD []).Joined ['#'] [d])) :=
  ⟨tooManySpaces_passes_iff o m, bodySoftMaxLineLength_passes_iff o m,
    properIssueRefs_passes_iff o m⟩

/-- Code between two sentences, with a space on both sides of it. -/
theorem passes_iff_not_joined_sentences :
    ∃ m, parse "core: x\n\nIt reads. ```\nread()\n``` It writes.".toList = .ok m ∧
      ¬[' ', ' '] <:+: m.raw ∧ (∀ l ∈ lines (m.rawBody.getD []), l.text.length ≤ 64) ∧
      (∀ d : Char, d.isDigit = true → ¬['#', d] <:+: m.rawBody.getD []) ∧
      (¬∃ c, c ≠ '.' ∧ m.raw.Joined [c, ' '] [' ']) ∧
      Passes .bodySoftMaxLineLength ({} : Config).options m ∧
      ¬∃ d : Char, d.isDigit = true ∧ (m.rawBody.getD []).Joined ['#'] [d] := by
  have hgap : ¬[' ', ' '] <:+: "core: x\n\nIt reads. ```\nread()\n``` It writes.".toList := by decide
  have hshort : ∀ l ∈ lines "\n\nIt reads. ```\nread()\n``` It writes.".toList,
      l.text.length ≤ 64 := by decide
  have hhash (d : Char) (hd : d.isDigit = true) :
      ¬['#', d] <:+: "\n\nIt reads. ```\nread()\n``` It writes.".toList := fun hin =>
    absurd (hasHashNumber_iff.2 ⟨d, hd, hin⟩) (by decide)
  obtain ⟨hspaces, hlines, hrefs⟩ := passes_iff_not_joined ({} : Config).options
    ⟨"core: x\n\nIt reads. ```\nread()\n``` It writes.".toList, "core: x".toList⟩
  refine ⟨_, rfl, hgap, hshort, hhash, (hspaces hgap).1 ?_, (hlines hshort).2 ?_,
    (hrefs hhash).1 ?_⟩
  · rw [passes_iff rfl]
    decide
  · have hleft : ∀ l ∈ lines "It reads.  It writes.".toList, ¬isOverlong 64 l = true := by decide
    rintro ⟨l, hl, hover, -⟩
    exact hleft l hl hover
  · rw [passes_iff rfl]
    decide

/-- Code in a sentence, on the edge of two lines and behind a hash sign : what is left without it
offends, and no part of the message does. -/
theorem offends_where_joined :
    (∃ m, parse "core: x\n\nUse ```a``` here.".toList = .ok m ∧ ¬[' ', ' '] <:+: m.raw ∧
      ¬Passes .tooManySpaces ({} : Config).options m) ∧
    (∃ m, parse ("core: x\n\nThe parser reads what the lexer hands over, ```\nread()\n```" ++
        " and keeps the place of all tokens.").toList = .ok m ∧
      (∀ l ∈ lines (m.rawBody.getD []), l.text.length ≤ 64) ∧
      ¬Passes .bodySoftMaxLineLength ({} : Config).options m) ∧
    ∃ m, parse "core: x\n\nSee #```a```1.".toList = .ok m ∧
      (∀ d : Char, d.isDigit = true → ¬['#', d] <:+: m.rawBody.getD []) ∧
      ¬Passes .properIssueRefs ({} : Config).options m := by
  refine ⟨⟨_, rfl, by decide, by rw [passes_iff rfl]; decide⟩,
    ⟨_, rfl, by decide, by rw [passes_iff rfl]; decide⟩,
    ⟨_, rfl, fun d hd hin => ?_, by rw [passes_iff rfl]; decide⟩⟩
  exact absurd (hasHashNumber_iff.2 ⟨d, hd, hin⟩) (by decide)

end Rule
end CommitStyle
