import CommitStyle.Proofs.Rule.Guarded
import CommitStyle.Proofs.Rule.Misuse
import CommitStyle.Proofs.Text.Piece

/-!
# No guard refuses

The guards of `Rule.guardedCheck` hold wherever a rule asks them. An offset that is the length of a
part of the text is between two characters (`Text.splitAtByte_append`), and every offset that a rule
cuts at is one. A line that was cut at line feeds is a line (`Line.guarded_text`), so the loops over
lines never stop at a guard (`anyOutsideFences_eq`, `guardedMisplaced_eq`, `footerStart?_eq`). What
remains are the first words of a header, which is where `Rule.offends` may refuse as well :
`Rule.guardedCheck_eq` says that the two give the same verdict, or the same refusal, on every
message.
-/

namespace CommitStyle

/-! ## Offsets -/

namespace Text

theorem takeBytes_zero (t : Text) : takeBytes 0 t = [] := by
  cases t with
  | nil => rfl
  | cons c t =>
    have := c.utf8Size_pos
    rw [takeBytes, if_neg (by omega)]

theorem byteLength_append (a b : Text) : byteLength (a ++ b) = byteLength a + byteLength b := by
  induction a with
  | nil => simp [byteLength]
  | cons c a ih => rw [List.cons_append, byteLength, byteLength, ih, Nat.add_assoc]

theorem takeBytes_append (a b : Text) : takeBytes (byteLength a) (a ++ b) = a := by
  induction a with
  | nil => exact takeBytes_zero b
  | cons c a ih =>
    have hlen : byteLength (c :: a) = c.utf8Size + byteLength a := byteLength_append [c] a
    rw [List.cons_append, takeBytes, hlen, if_pos (by omega), Nat.add_sub_cancel_left, ih]

/-- A cut behind a part of the text is between two characters. -/
theorem splitAtByte_append (a b : Text) : splitAtByte (byteLength a) (a ++ b) = .ok (a, b) := by
  unfold splitAtByte
  rw [takeBytes_append, if_pos rfl, List.drop_left]

theorem splitAtByte_succ {c : Char} (hc : c.utf8Size = 1) (a b : Text) :
    splitAtByte (byteLength a + 1) (a ++ c :: b) = .ok (a ++ [c], b) := by
  have hlen : byteLength (a ++ [c]) = byteLength a + 1 := by
    rw [byteLength_append]
    simp [byteLength, hc]
  have := splitAtByte_append (a ++ [c]) b
  rwa [hlen, List.append_assoc, List.singleton_append] at this

theorem byteIndex?_append {c : Char} {a : Text} (ha : c ∉ a) (b : Text) :
    byteIndex? c (a ++ c :: b) = some (byteLength a) := by
  unfold byteIndex?
  rw [if_pos (by simp), takeWhile_ne_append ha]

theorem byteIndex?_of_not_mem {c : Char} {t : Text} (h : c ∉ t) : byteIndex? c t = none :=
  if_neg h

theorem byteLength_pos {t : Text} (h : t ≠ []) : 0 < byteLength t := by
  cases t with
  | nil => exact absurd rfl h
  | cons c t =>
    have := c.utf8Size_pos
    have : byteLength (c :: t) = c.utf8Size + byteLength t := byteLength_append [c] t
    omega

theorem contains_cons {c d : Char} {p : Text} (rest : Text) :
    contains (c :: p) (d :: rest) = ((c == d && p.isPrefixOf rest) || contains (c :: p) rest) := by
  unfold contains
  rw [cut, List.isPrefixOf]
  split
  · next h => simp [h]
  · next h =>
    rw [Bool.not_eq_true] at h
    simp [h]

end Text

theorem isPrefixOf_singleton (c : Char) (t : Text) : [c].isPrefixOf t = (t.head? == some c) := by
  cases t with
  | nil => rfl
  | cons d t => simp [List.isPrefixOf, Bool.beq_comm (a := c)]

/-! ## Headers -/

namespace Header

theorem area?_append {a : Text} (ha : ':' ∉ a) (b : Text) : area? (a ++ ':' :: b) = some a := by
  unfold area?
  rw [if_pos (by simp), Text.takeWhile_ne_append ha]

theorem afterArea?_append {a : Text} (ha : ':' ∉ a) (hne : a ≠ []) (b : Text) :
    afterArea? (a ++ ':' :: b) = some b := by
  unfold afterArea?
  rw [Text.takeWhile_ne_append ha, Text.dropWhile_ne_append ha]
  cases a with
  | nil => exact absurd rfl hne
  | cons c a => rfl

theorem afterArea?_of_not_mem {h : Text} (hc : ':' ∉ h) : afterArea? h = none := by
  unfold afterArea?
  rw [Text.dropWhile_ne_eq_nil_iff.2 hc]
  split <;> simp_all

theorem areaColon?_append {a : Text} (ha : ':' ∉ a) (hne : a ≠ []) (b : Text) :
    areaColon? (a ++ ':' :: b) = some (Text.byteLength a) := by
  unfold areaColon?
  rw [Text.byteIndex?_append ha]
  simp [Text.byteLength_pos hne]

theorem guardedArea?_eq (h : Text) : guardedArea? h = .ok (area? h) := by
  unfold guardedArea?
  by_cases hc : ':' ∈ h
  · obtain ⟨a, b, rfl, ha⟩ := List.eq_append_cons_of_mem hc
    simp only [Text.byteIndex?_append ha, area?_append ha, Text.splitAtByte_append]
    rfl
  · rw [Text.byteIndex?_of_not_mem hc, area?, if_neg hc]

theorem guardedAfterArea?_eq (h : Text) : guardedAfterArea? h = .ok (afterArea? h) := by
  unfold guardedAfterArea?
  by_cases hc : ':' ∈ h
  · obtain ⟨a, b, rfl, ha⟩ := List.eq_append_cons_of_mem hc
    by_cases hne : a = []
    · subst hne
      rfl
    · have hcut := Text.splitAtByte_succ (c := ':') rfl a b
      simp only [areaColon?_append ha hne, afterArea?_append ha hne, hcut]
      rfl
  · rw [afterArea?_of_not_mem hc, areaColon?, Text.byteIndex?_of_not_mem hc]
    rfl

theorem guardedTitle_eq (h : Text) : guardedTitle h = .ok (title h) := by
  unfold guardedTitle title
  by_cases hc : ':' ∈ h
  · obtain ⟨a, b, rfl, ha⟩ := List.eq_append_cons_of_mem hc
    rw [Text.dropWhile_ne_append ha]
    by_cases hne : a = []
    · subst hne
      rfl
    · simp only [areaColon?_append ha hne, Text.splitAtByte_append]
      rfl
  · rw [areaColon?, Text.byteIndex?_of_not_mem hc, Text.dropWhile_ne_eq_nil_iff.2 hc]
    rfl

/-- The offsets of the commas behind `before` find a comma with a space behind it. -/
theorem anyM_spacedComma (t : Text) : ∀ before : Text,
    ((t.byteIndices ',' before.byteLength).anyM fun n =>
      ((before ++ t).splitAtByte (n + 1)).map fun cut => cut.2.head? == some ' ') =
    (.ok (Text.contains [',', ' '] t) : Except Misuse Bool) := by
  induction t with
  | nil => intro before; rfl
  | cons d t ih =>
    intro before
    have hlen : before.byteLength + d.utf8Size = (before ++ [d]).byteLength := by
      rw [Text.byteLength_append]
      simp [Text.byteLength]
    have ih := ih (before ++ [d])
    rw [List.append_assoc, List.singleton_append, ← hlen] at ih
    rw [Text.contains_cons, isPrefixOf_singleton, Text.byteIndices]
    by_cases hd : d = ','
    · subst hd
      rw [if_pos rfl, List.anyM, Text.splitAtByte_succ rfl]
      cases hs : t.head? == some ' ' with
      | true => simp [Except.map, bind, Except.bind, pure, Except.pure, hs]
      | false => simpa [Except.map, bind, Except.bind, hs] using ih
    · rw [if_neg hd, ih]
      simp [Ne.symm hd]

/-- The offsets of the opening parentheses behind `before` find one with a space before it. -/
theorem anyM_spacedParen (t : Text) : ∀ before : Text,
    ((t.byteIndices '(' before.byteLength).anyM fun n =>
      ((before ++ t).splitAtByte n).map fun cut => cut.1.getLast? == some ' ') =
    (.ok ((before.getLast? == some ' ' && t.head? == some '(') || Text.contains [' ', '('] t) :
      Except Misuse Bool) := by
  induction t with
  | nil => intro before; simp [Text.byteIndices, Text.contains, Text.cut]; rfl
  | cons d t ih =>
    intro before
    have hlen : before.byteLength + d.utf8Size = (before ++ [d]).byteLength := by
      rw [Text.byteLength_append]
      simp [Text.byteLength]
    have ih := ih (before ++ [d])
    rw [List.append_assoc, List.singleton_append, ← hlen, List.getLast?_concat] at ih
    rw [Text.contains_cons, isPrefixOf_singleton, Text.byteIndices, Bool.beq_comm (a := ' ')]
    by_cases hd : d = '('
    · subst hd
      rw [if_pos rfl, List.anyM, Text.splitAtByte_append]
      cases hs : before.getLast? == some ' ' with
      | true => simp [Except.map, bind, Except.bind, pure, Except.pure, hs]
      | false => simpa [Except.map, bind, Except.bind, hs] using ih
    · rw [if_neg hd, ih]
      simp [hd]

theorem guardedSpacedComma_eq (h : Text) : guardedSpacedComma h = .ok (hasSpacedComma h) := by
  unfold guardedSpacedComma hasSpacedComma areaContains
  rw [guardedArea?_eq]
  cases area? h with
  | none => rfl
  | some area => exact anyM_spacedComma area []

theorem guardedSpacedParen_eq (h : Text) : guardedSpacedParen h = .ok (hasSpacedParen h) := by
  unfold guardedSpacedParen hasSpacedParen areaContains
  rw [guardedArea?_eq]
  cases area? h with
  | none => rfl
  | some area => exact anyM_spacedParen area []

theorem guardedLacksCapital_eq (h : Text) : guardedLacksCapital h = lacksCapital h := by
  unfold guardedLacksCapital lacksCapital Word.guarded
  split
  · rfl
  cases Word.ofText? (Text.firstWord h) with
  | error e => rfl
  | ok w =>
    cases hs : w.startsSentence <;>
      simp [Except.map, bind, Except.bind, pure, Except.pure, hs]

theorem guardedCapitalSubject_eq (h : Text) : guardedCapitalSubject h = hasCapitalSubject h := by
  unfold guardedCapitalSubject hasCapitalSubject
  rw [guardedAfterArea?_eq]
  cases afterArea? h with
  | none => rfl
  | some rest => rfl

end Header

/-! ## Lines -/

theorem Line.guarded_text {α : Type} (f : Line → α) (l : Line) :
    Line.guarded f l.text = .ok (f l) := by
  unfold Line.guarded Line.ofText?
  rw [dif_neg l.unbroken]
  rfl

theorem Text.splitLines_eq (t : Text) : t.splitLines = t.lines.map Line.text :=
  t.map_text_lines.symm

/-- Walking through lines that stand in no broken promise is `List.any`. -/
theorem anyOutsideFences_eq {p : Text → Except Misuse Bool} {q : Line → Bool}
    (hp : ∀ l : Line, p l.text = .ok (q l)) (ls : List Line) : ∀ inside : Bool,
    anyOutsideFences p inside (ls.map Line.text) = .ok ((outsideFencesFrom inside ls).any q) := by
  induction ls with
  | nil => intro inside; rfl
  | cons l ls ih =>
    intro inside
    rw [List.map_cons, anyOutsideFences, Line.guarded_text, outsideFencesFrom]
    simp only [bind, Except.bind]
    split
    · exact ih _
    · split
      · exact ih _
      · rw [hp, ih, List.any_cons]
        cases q l <;> rfl

theorem footerStart?_eq (ls : List Line) :
    footerStart? (ls.map Line.text) = .ok (ls.findIdx? Line.isFooterNote) := by
  induction ls with
  | nil => rfl
  | cons l ls ih =>
    rw [List.map_cons, footerStart?, Line.guarded_text, List.findIdx?_cons]
    simp only [bind, Except.bind]
    split
    · rfl
    · rw [ih]
      rfl

theorem guardedMisplaced_eq (ls : List Line) : ∀ seen : Bool,
    guardedMisplaced seen (ls.map Line.text) = .ok (Message.misplacedFrom seen ls) := by
  induction ls with
  | nil => intro seen; rfl
  | cons l ls ih =>
    intro seen
    rw [List.map_cons, guardedMisplaced, Message.misplacedFrom]
    split
    · exact ih seen
    · simp only [Line.guarded_text, bind, Except.bind, ih]
      cases seen || l.isFooterNote <;> cases l.isFooterNote <;> rfl

theorem guardedReferences_eq (ls : List Line) :
    guardedReferences (ls.map Line.text) = .ok (citedNumbers ls, listedNumbers ls) := by
  induction ls with
  | nil => rfl
  | cons l ls ih =>
    rw [List.map_cons, guardedReferences, Line.guarded_text, ih]
    unfold citedNumbers listedNumbers
    simp only [bind, Except.bind, pure, Except.pure]
    cases h : l.isReference <;> simp [h]

theorem take_drop_of_findIdx? {α : Type} {p : α → Bool} {n : Nat} : ∀ {l : List α},
    l.findIdx? p = some n →
      l.take n = l.takeWhile (fun x => !p x) ∧ l.drop n = l.dropWhile (fun x => !p x)
  | [], h => by simp at h
  | x :: l, h => by
    rw [List.findIdx?_cons] at h
    cases hx : p x with
    | true =>
      rw [hx, if_pos rfl, Option.some.injEq] at h
      subst h
      simp [hx]
    | false =>
      simp only [hx, Bool.false_eq_true, if_false, Option.map_eq_some_iff] at h
      obtain ⟨k, hk, rfl⟩ := h
      obtain ⟨htake, hdrop⟩ := take_drop_of_findIdx? hk
      simp [hx, htake, hdrop]

theorem guardedOverlong_text (max : Nat) (l : Line) :
    guardedOverlong max l.text = .ok (Message.isOverlong max l) := by
  unfold guardedOverlong Message.isOverlong
  rw [Line.guarded_text]
  split
  · next h => simp_all [Except.map]
  · next h => simp_all

theorem guardedRagged_text (l : Line) : guardedRagged l.text = .ok (Message.isRagged l) :=
  rfl

theorem Paragraph.guardedOffends_eq (p : Paragraph) :
    p.guardedOffends = .ok (Message.paragraphOffends p) := by
  obtain ⟨last, hlast⟩ : ∃ last, p.lines.getLast? = some last :=
    ⟨_, List.getLast?_eq_some_getLast p.text.lines_ne_nil⟩
  have hsplit : p.text.splitLines = p.lines.map Line.text := p.text.splitLines_eq
  unfold guardedOffends Message.paragraphOffends
  simp only [hsplit, List.getLast?_map, hlast, Option.map_some, Option.getD_some,
    List.length_map, Line.guarded_text]
  split
  · next h => rw [h, Bool.true_or]
  · next h =>
    rw [Bool.not_eq_true] at h
    rw [h, Bool.false_or]
    split
    · next hend =>
      rcases Bool.or_eq_true_iff.1 hend with hend | hend <;> simp [hend]
    · next hend =>
      rw [Bool.not_eq_true, Bool.or_eq_false_iff] at hend
      simp [hend, Except.map]

theorem anyM_guardedOffends (ps : List Paragraph) :
    ps.anyM Paragraph.guardedOffends = .ok (ps.any Message.paragraphOffends) := by
  induction ps with
  | nil => rfl
  | cons p ps ih =>
    rw [List.anyM, p.guardedOffends_eq, ih, List.any_cons]
    simp only [bind, Except.bind]
    cases Message.paragraphOffends p <;> rfl

/-! ## Regions of a message -/

namespace Message

variable (m : Message)

theorem guardedRawBody_eq : m.guardedRawBody = .ok m.rawBody := by
  unfold guardedRawBody rawBody
  by_cases hc : '\n' ∈ m.raw.trim
  · obtain ⟨a, b, heq, ha⟩ := List.eq_append_cons_of_mem hc
    rw [heq]
    simp only [Text.byteIndex?_append ha, Text.splitAtByte_append, Text.dropWhile_ne_append ha]
    rfl
  · rw [Text.byteIndex?_of_not_mem hc, Text.dropWhile_ne_eq_nil_iff.2 hc]

theorem guardedBody_eq : m.guardedBody = .ok m.body := by
  unfold guardedBody body
  rw [guardedRawBody_eq]
  rfl

theorem guardedBodyWithoutCode_eq : m.guardedBodyWithoutCode = .ok m.bodyWithoutCode := by
  unfold guardedBodyWithoutCode bodyWithoutCode
  rw [guardedRawBody_eq]
  rfl

theorem guardedBodyLines_eq : m.guardedBodyLines = .ok (m.bodyLines.map Line.text) := by
  unfold guardedBodyLines bodyLines
  rw [guardedBody_eq]
  cases m.body with
  | none => rfl
  | some body => exact congrArg Except.ok body.splitLines_eq

end Message

/-! ## Applying a rule -/

namespace Rule

/-- The guarded test finds what the test finds. -/
theorem guardedOffends_eq (r : Rule) (o : Options) (m : Message) :
    r.guardedOffends o m = r.offends o m := by
  cases r with
  | bodyLeadingBlank =>
    simp only [guardedOffends, Message.guardedBody_eq, bind, Except.bind, Text.splitLines_eq,
      List.getElem?_map, Option.map_map]
    rfl
  | bodyProse =>
    simp only [guardedOffends, Message.guardedBodyWithoutCode_eq, bind, Except.bind, offends,
      Message.hasBadProse]
    cases m.bodyWithoutCode with
    | none => rfl
    | some body => exact anyM_guardedOffends _
  | bodySoftMaxLineLength =>
    simp only [guardedOffends, Message.guardedBodyWithoutCode_eq, bind, Except.bind, offends,
      Message.hasOverlongLine]
    cases m.bodyWithoutCode with
    | none => rfl
    | some body =>
      simp only [Text.splitLines_eq]
      exact anyOutsideFences_eq (guardedOverlong_text _) _ _
  | footerLeadingBlank =>
    simp only [guardedOffends, Message.guardedBodyLines_eq, bind, Except.bind, footerStart?_eq,
      offends, Message.lacksBlankAboveFooter, Message.footerLines]
    cases hn : m.bodyLines.findIdx? Line.isFooterNote with
    | none =>
      have hnone := List.findIdx?_eq_none_iff.1 hn
      rw [List.dropWhile_eq_nil_iff.2 fun l hl => by simp [hnone l hl]]
      rfl
    | some n =>
      obtain ⟨htake, hdrop⟩ := take_drop_of_findIdx? hn
      have hlt := (List.findIdx?_eq_some_iff_getElem.1 hn).1
      rw [← htake, ← hdrop]
      cases n with
      | zero => simp [pure, Except.pure]
      | succ n =>
        have hne : (m.bodyLines.drop (n + 1)).isEmpty = false := by simpa using hlt
        have hlast : (m.bodyLines.take (n + 1)).getLast? = m.bodyLines[n]? := by
          rw [List.getLast?_take, if_neg (Nat.succ_ne_zero n), Nat.add_sub_cancel,
            List.getElem?_eq_getElem (by omega)]
          rfl
        simp only [hlast, hne, List.getElem?_map, Option.map_map]
        rfl
  | footerMaxLineLength =>
    simp only [guardedOffends, Message.guardedBodyLines_eq, bind, Except.bind, footerStart?_eq,
      offends, Message.hasOverlongFooter, Message.footerLines]
    cases hn : m.bodyLines.findIdx? Line.isFooterNote with
    | none =>
      have hnone := List.findIdx?_eq_none_iff.1 hn
      rw [List.dropWhile_eq_nil_iff.2 fun l hl => by simp [hnone l hl]]
      rfl
    | some n =>
      simp only [← (take_drop_of_findIdx? hn).2, ← List.map_drop, List.any_map]
      rfl
  | footerNotesMisplacement =>
    simp only [guardedOffends, Message.guardedBodyLines_eq, bind, Except.bind,
      guardedMisplaced_eq]
    rfl
  | footerReferencesExistence =>
    simp only [guardedOffends, Message.guardedBodyLines_eq, bind, Except.bind,
      guardedReferences_eq]
    rfl
  | preferSlashOverBackslash =>
    simp only [guardedOffends, Header.guardedArea?_eq, bind, Except.bind]
    rfl
  | properIssueRefs =>
    simp only [guardedOffends, Message.guardedRawBody_eq, bind, Except.bind]
    rfl
  | subjectLowercase => exact Header.guardedCapitalSubject_eq m.header
  | titleUppercase => exact Header.guardedLacksCapital_eq m.header
  | trailingWhitespace =>
    simp only [guardedOffends, Text.splitLines_eq]
    exact anyOutsideFences_eq guardedRagged_text _ _
  | typeSpaceAfterColon =>
    simp only [guardedOffends, Header.guardedAfterArea?_eq, bind, Except.bind, offends,
      Header.lacksColonSpace]
    rcases Header.afterArea? m.header with _ | _ | ⟨c, rest⟩ <;> rfl
  | typeSpaceAfterComma => exact Header.guardedSpacedComma_eq m.header
  | typeSpaceBeforeParen => exact Header.guardedSpacedParen_eq m.header
  | _ => rfl

theorem headerLengthText_eq (o : Options) (header : Text) : headerLengthText o header =
    lengthTextWith o header
      (if Header.isTooLong o.headerMaxLength header then suggested o header else []) := by
  unfold headerLengthText lengthTextWith
  cases Header.isTooLong o.headerMaxLength header with
  | false => rfl
  | true => cases h : (suggested o header).isEmpty <;> simp [h]

theorem guardedLengthText_eq (o : Options) (header : Text) :
    guardedLengthText o header = .ok (headerLengthText o header) := by
  rw [headerLengthText_eq]
  unfold guardedLengthText
  rw [Header.guardedTitle_eq]
  split <;> rfl

theorem guardedDiagnostic_eq (r : Rule) (o : Options) (m : Message) :
    r.guardedDiagnostic o m = .ok (r.diagnostic o m) := by
  cases r with
  | headerMaxLengthWithSuggestions => exact guardedLengthText_eq o m.header
  | _ => rfl

theorem guardedCheck_eq (r : Rule) (o : Options) (m : Message) :
    r.guardedCheck o m = r.check o m := by
  unfold guardedCheck check
  rw [guardedOffends_eq, guardedDiagnostic_eq]
  cases r.offends o m <;> rfl

end Rule

namespace Config

theorem guardedEvaluate_eq (c : Config) (r : Rule) (m : Message) :
    c.guardedEvaluate r m = c.evaluate r m :=
  congrArg (Except.map _) (r.guardedCheck_eq c.options m)

/-- No guard refuses a message from outside, whatever the rule and the configuration. On any other
message only the rules on first words can refuse, and only if the header has a line feed. The
linter itself gives what the guarded rules give. -/
theorem evaluate_refuses_only_broken_headers (c : Config) (r : Rule) :
    (∀ m : Message, m.Received → ∃ v, c.guardedEvaluate r m = .ok v) ∧
    (∀ (header raw : Text) (e : Misuse),
      c.guardedEvaluate r (Message.ofFields header raw) = .error e →
        (r = .titleUppercase ∨ r = .subjectLowercase) ∧ '\n' ∈ header) ∧
    (∀ m : Message, c.guardedEvaluate r m = c.evaluate r m) := by
  refine ⟨fun m hm => ?_, fun header raw e h => ?_, c.guardedEvaluate_eq r⟩
  · rw [guardedEvaluate_eq]
    exact c.evaluate_of_unbroken r hm.unbroken
  · rw [guardedEvaluate_eq, evaluate_eq] at h
    cases ho : r.offends c.options (Message.ofFields header raw) with
    | ok b => rw [ho] at h; cases h
    | error e' => exact Rule.misused_of_offends ho

example : guardedEvaluate {} .titleUppercase (.ofFields "two\nlines".toList []) =
    .error (.lineBreak "two\nlines".toList) :=
  rfl

end Config
end CommitStyle
