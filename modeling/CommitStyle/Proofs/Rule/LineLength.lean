import CommitStyle.Linter
import CommitStyle.Proofs.Message.CodeExtent

/-!
# The lines that are measured

The rule on long lines takes code out of the body twice : all that stands between two fences, and
then the lines of fenced blocks. What is left the first time has no code, so of its lines at most
one starts with a fence (`Text.pairwise_isFence_lines`), and the block that it opens is not closed.
The lines that are measured are those above it (`Rule.bodySoftMaxLineLength_measures`).
-/

namespace CommitStyle

/-! ## Lines above the first fence -/

/-- The longest start of the list in which `p` holds of all members. -/
structure LongestStart {α : Type} (p : α → Prop) (l s : List α) : Prop where
  start : s <+: l
  holds : ∀ a ∈ s, p a
  longest : ∀ s', s' <+: l → (∀ a ∈ s', p a) → s' <+: s

theorem longestStart_takeWhile {α : Type} (p : α → Bool) (l : List α) :
    LongestStart (p · = true) l (l.takeWhile p) where
  start := List.takeWhile_prefix p
  holds := fun _ ha => List.mem_takeWhile_imp ha
  longest := fun _ hs hall => Text.prefix_takeWhile hs hall

/-- Behind two lines that start with a fence there is code. -/
theorem Text.pairwise_isFence_lines {t : Text} (h : ¬t.HasCode) :
    (lines t).Pairwise fun l k => l.isFence = true → k.isFence = false := by
  induction t using lineInduction with
  | line p hp =>
    rw [lines_of_not_mem hp]
    exact List.pairwise_singleton _ _
  | above p t hp ih =>
    rw [lines_append, lines_of_not_mem hp, List.singleton_append]
    refine List.Pairwise.cons (fun k hk hl => ?_) (ih fun ht => h (ht.of_infix ?_))
    · rw [← Bool.not_eq_true]
      intro hfence
      obtain ⟨a, ha⟩ := (List.isPrefixOf_iff_prefix.1 hl).trans (prefix_dropReturn p)
      obtain ⟨b, c, hbc⟩ :=
        (List.isPrefixOf_iff_prefix.1 hfence).isInfix.trans (infix_of_mem_lines hk)
      refine h ⟨[], a ++ '\n' :: b, c, ?_⟩
      rw [← ha, ← hbc]
      simp only [List.nil_append, List.append_assoc, List.cons_append]
    · exact (List.suffix_cons '\n' t).isInfix.trans List.infix_append_right

/-- A block that is not closed hides the line that opens it and all lines below. -/
theorem outsideFences_eq_takeWhile {ls : List Line}
    (h : ls.Pairwise fun l k => l.isFence = true → k.isFence = false) :
    outsideFences ls = ls.takeWhile fun l => !l.isFence := by
  induction h with
  | nil => rfl
  | @cons l ls hl hls ih =>
    unfold outsideFences at ih ⊢
    rw [outsideFencesFrom, ih]
    cases hfence : l.isFence with
    | false => simp [hfence]
    | true =>
      have hinside := outsideFencesFrom_inside (fun k hk => hl k hk hfence) []
      rw [List.append_nil] at hinside
      simp [hfence, hinside, outsideFencesFrom]

/-! ## The rule -/

namespace Message

/-- The lines of the trimmed body without its code. -/
def proseLines (m : Message) : List Line :=
  (m.bodyWithoutCode.map Text.lines).getD []

/-- The lines of the body that the rule on long lines looks at. -/
def measuredLines (m : Message) : List Line :=
  outsideFences m.proseLines

theorem hasOverlongLine_iff {max : Nat} {m : Message} : m.hasOverlongLine max = true ↔
    ∃ l ∈ m.measuredLines,
      max < l.text.length ∧ Url.isUrl l.text = false ∧ l.isFooterNote = false := by
  have heq : m.hasOverlongLine max = m.measuredLines.any (isOverlong max) := by
    unfold hasOverlongLine measuredLines proseLines
    cases m.bodyWithoutCode <;> rfl
  rw [heq, List.any_eq_true]
  simp [isOverlong, and_assoc]

theorem not_hasCode_of_bodyWithoutCode {m : Message} {t : Text} (h : m.bodyWithoutCode = some t) :
    ¬t.HasCode := by
  obtain ⟨body, -, hbody⟩ := Option.bind_eq_some_iff.1 h
  obtain ⟨rfl, -⟩ := Text.eq_trim_of_trim? hbody
  exact fun hcode => Text.not_hasCode_withoutCode body (hcode.of_infix (Text.infix_trim _))

theorem pairwise_isFence_proseLines (m : Message) :
    m.proseLines.Pairwise fun l k => l.isFence = true → k.isFence = false := by
  unfold proseLines
  cases h : m.bodyWithoutCode with
  | none => exact List.Pairwise.nil
  | some t => exact Text.pairwise_isFence_lines (not_hasCode_of_bodyWithoutCode h)

theorem measuredLines_eq (m : Message) :
    m.measuredLines = m.proseLines.takeWhile fun l => !l.isFence :=
  outsideFences_eq_takeWhile m.pairwise_isFence_proseLines

end Message

/-- The rule on long lines measures the longest start of the lines of the body, without its code,
in which no line starts with a fence. It fails exactly if one of them is too long and neither a URL
nor a footer note. A line that starts with a fence is the only one, and nothing below it counts. -/
theorem Rule.bodySoftMaxLineLength_measures (o : Options) (m : Message) :
    LongestStart (fun l => l.isFence = false) m.proseLines m.measuredLines ∧
    (∃ v, Rule.check .bodySoftMaxLineLength o m = .ok v ∧
      (v.passed = false ↔ ∃ l ∈ m.measuredLines, o.bodySoftMaxLineLength < l.text.length ∧
        Url.isUrl l.text = false ∧ l.isFooterNote = false)) ∧
    ∀ above l below, m.proseLines = above ++ l :: below → l.isFence = true →
      m.measuredLines = above := by
  refine ⟨?_, ⟨_, rfl, ?_⟩, fun above l below heq hfence => ?_⟩
  · rw [m.measuredLines_eq]
    simpa using longestStart_takeWhile (fun l : Line => !l.isFence) m.proseLines
  · rw [← Message.hasOverlongLine_iff]
    exact Bool.not_eq_eq_eq_not
  · have hpairwise := m.pairwise_isFence_proseLines
    rw [heq, List.pairwise_append] at hpairwise
    have habove : ∀ k ∈ above, (!k.isFence) = true := by
      intro k hk
      rw [Bool.not_eq_true']
      by_contra hk'
      have hl := hpairwise.2.2 k hk l List.mem_cons_self (by simpa using hk')
      exact absurd hfence (by simp [hl])
    rw [m.measuredLines_eq, heq, List.takeWhile_append_of_pos habove,
      List.takeWhile_cons_of_neg (by simp [hfence]), List.append_nil]

/-- Nothing is measured below a fence that is left open. -/
example : (Message.measuredLines ⟨"core: x\n\nIt reads:\n```\nread()\n\nIt writes.".toList,
    "core: x".toList⟩).map Line.text = ["It reads:".toList] := by decide

end CommitStyle
