import CommitStyle.Proofs.Message.Code
import CommitStyle.Proofs.Rule.Misuse
import Mathlib.Algebra.Group.Nat.Even
import Mathlib.Data.List.FinRange

/-!
# Lines outside fences

Every line that starts with a fence opens or closes a block, so whether a line is in a block is the
parity of the fences above it (`insideAfter`). One line takes the state before it to the state after
it, and by induction a walk over some lines leaves the rest to a walk from the state that their
fences make up (`outsideFencesFrom_append`). What is kept are then the lines that are no fences and
have an even number of them above (`outsideFencesFrom_eq`).
-/

namespace CommitStyle

/-- The number of lines that start with a fence. -/
def fenceCount (ls : List Line) : Nat :=
  ls.countP Line.isFence

/-- The line in this place starts with no fence, and the fences above it come in pairs. -/
def IsOutside (ls : List Line) (i : Fin ls.length) : Prop :=
  ¬fence <+: ls[i].text ∧ Even (fenceCount (ls.take i))

instance (ls : List Line) (i : Fin ls.length) : Decidable (IsOutside ls i) :=
  inferInstanceAs (Decidable (_ ∧ _))

/-! ## Walks -/

/-- Whether the line below these lines is in a block, where `inside` tells whether the first of them
is in one. -/
def insideAfter (inside : Bool) (ls : List Line) : Bool :=
  inside ^^ !decide (Even (fenceCount ls))

theorem insideAfter_nil (inside : Bool) : insideAfter inside [] = inside :=
  Bool.xor_false inside

theorem insideAfter_cons (inside : Bool) (l : Line) (ls : List Line) :
    insideAfter inside (l :: ls) = insideAfter (inside ^^ l.isFence) ls := by
  unfold insideAfter fenceCount
  rw [List.countP_cons]
  cases l.isFence with
  | false => rw [if_neg Bool.false_ne_true, Nat.add_zero, Bool.xor_false]
  | true =>
    have hparity : (!decide (Even (ls.countP Line.isFence + 1))) =
        decide (Even (ls.countP Line.isFence)) := by
      rw [← decide_not, decide_eq_decide, Nat.even_add_one, not_not]
    rw [if_pos rfl, hparity, Bool.xor_assoc, Bool.true_xor, Bool.not_not]

theorem outsideFencesFrom_cons (inside : Bool) (l : Line) (ls : List Line) :
    outsideFencesFrom inside (l :: ls) =
      (if !l.isFence && !inside then [l] else []) ++ outsideFencesFrom (inside ^^ l.isFence) ls := by
  rw [outsideFencesFrom]
  cases l.isFence <;> cases inside <;> rfl

/-- A walk goes on from the state that the fences so far make up. -/
theorem outsideFencesFrom_append (p : List Line) : ∀ (inside : Bool) (q : List Line),
    outsideFencesFrom inside (p ++ q) =
      outsideFencesFrom inside p ++ outsideFencesFrom (insideAfter inside p) q := by
  induction p with
  | nil =>
    intro inside q
    rw [insideAfter_nil]
    rfl
  | cons l p ih =>
    intro inside q
    rw [List.cons_append, outsideFencesFrom_cons, outsideFencesFrom_cons, ih, insideAfter_cons,
      List.append_assoc]

/-- The line in this place is no fence and has the state outside above it. -/
def isKept (inside : Bool) (ls : List Line) (i : Fin ls.length) : Bool :=
  !ls[i].isFence && !insideAfter inside (ls.take i)

section Places

variable (inside : Bool) (l : Line) (ls : List Line)

theorem isKept_zero : isKept inside (l :: ls) 0 = (!l.isFence && !inside) := by
  show (!l.isFence && !insideAfter inside []) = _
  rw [insideAfter_nil]

/-- The places below the first line are those of the lines below it, from the state it leaves. -/
theorem isKept_comp_succ :
    isKept inside (l :: ls) ∘ Fin.succ = isKept (inside ^^ l.isFence) ls := by
  funext i
  show (!ls[i].isFence && !insideAfter inside (l :: ls.take i)) = _
  rw [insideAfter_cons]
  rfl

end Places

/-- A walk keeps the lines in these places, in their order. -/
theorem outsideFencesFrom_eq (ls : List Line) : ∀ inside : Bool, outsideFencesFrom inside ls =
    ((List.finRange ls.length).filter (isKept inside ls)).map ls.get := by
  induction ls with
  | nil => exact fun _ => rfl
  | cons l ls ih =>
    intro inside
    rw [outsideFencesFrom_cons, ih, ← isKept_comp_succ]
    simp only [List.length_cons, List.finRange_succ, List.filter_cons, List.filter_map, isKept_zero]
    split
    · rw [List.map_cons, List.map_map]
      rfl
    · rw [List.map_map]
      rfl

theorem isKept_false_iff {ls : List Line} {i : Fin ls.length} :
    isKept false ls i = true ↔ IsOutside ls i := by
  have hfence : ls[i].isFence = true ↔ fence <+: ls[i].text := List.isPrefixOf_iff_prefix
  unfold isKept insideAfter IsOutside
  rw [Bool.false_xor, Bool.not_not, Bool.and_eq_true, Bool.not_eq_true', ← Bool.not_eq_true,
    hfence, decide_eq_true_iff]

theorem outsideFences_eq (ls : List Line) : outsideFences ls =
    ((List.finRange ls.length).filter fun i => IsOutside ls i).map ls.get := by
  rw [outsideFences, outsideFencesFrom_eq]
  congr 1
  refine List.filter_congr fun i _ => ?_
  rw [Bool.eq_iff_iff, isKept_false_iff, decide_eq_true_iff]

/-! ## Pairs of fences -/

theorem outsideFences_append {p : List Line} (h : Even (fenceCount p)) (q : List Line) :
    outsideFences (p ++ q) = outsideFences p ++ outsideFences q := by
  have hstate : insideAfter false p = false := by simp [insideAfter, h]
  rw [outsideFences, outsideFencesFrom_append, hstate]
  rfl

/-! ## Ragged lines -/

namespace Message

theorem isRagged_eq_false_iff {l : Line} : isRagged l = false ↔
    ∀ c, c = ' ' ∨ c = '\t' → l.text.head? ≠ some c ∧ l.text.getLast? ≠ some c := by
  unfold isRagged isSpaceOrTab
  cases l.text.head? <;> cases l.text.getLast? <;> simp [or_imp, forall_and]

theorem not_hasRaggedLine_iff {m : Message} : m.hasRaggedLine = false ↔
    ∀ i, IsOutside (Text.lines m.raw) i → isRagged (Text.lines m.raw)[i] = false := by
  unfold hasRaggedLine
  rw [outsideFences_eq, List.any_map, List.any_eq_false]
  simp

end Message

namespace Rule

/-- The lines outside blocks are, in their order, those that start with no fence and have an even
number of fences above them. So lines below pairs of fences are walked over as if they stood alone,
and the rule on ragged lines passes if no such line starts or ends with a space or a tab. -/
theorem outsideFences_below_pairs :
    (∀ ls, outsideFences ls =
      ((List.finRange ls.length).filter fun i => IsOutside ls i).map ls.get) ∧
    (∀ p q, Even (fenceCount p) → outsideFences (p ++ q) = outsideFences p ++ outsideFences q) ∧
    ∀ o m, ∃ v, check .trailingWhitespace o m = .ok v ∧
      (v.passed = true ↔ ∀ i, IsOutside (Text.lines m.raw) i → ∀ c, c = ' ' ∨ c = '\t' →
        (Text.lines m.raw)[i].text.head? ≠ some c ∧
          (Text.lines m.raw)[i].text.getLast? ≠ some c) := by
  refine ⟨outsideFences_eq, fun p q h => outsideFences_append h q, fun o m => ?_⟩
  obtain ⟨v, hv, hpassed⟩ := exists_verdict (r := .trailingWhitespace) (o := o) (m := m) rfl
  refine ⟨v, hv, ?_⟩
  rw [← Bool.not_eq_false, hpassed, Bool.not_eq_true, Message.not_hasRaggedLine_iff]
  simp only [Message.isRagged_eq_false_iff]

/-- Below a block that is closed the fences are counted from the start. -/
theorem outsideFences_below_pairs_closed :
    let p := Text.lines "It reads.\n```\ncode\n```".toList
    let q := Text.lines "more\n```\nopen".toList
    Even (fenceCount p) ∧ outsideFences (p ++ q) = outsideFences p ++ outsideFences q := by
  intro p q
  have hpaired : Even (fenceCount p) := by decide
  exact ⟨hpaired, outsideFences_below_pairs.2.1 p q hpaired⟩

end Rule
end CommitStyle
