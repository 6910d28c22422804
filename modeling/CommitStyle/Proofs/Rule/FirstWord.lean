import CommitStyle.Proofs.Rule.Safety
import CommitStyle.Proofs.Text.LetterCase

/-!
# Shapes of first words

A word that is not empty has one of three shapes (`Word.existsUnique_shape`) : it is capitalised, it
is a proper noun, or it is made of small letters. The tests on words mix the case of Unicode, which
they ask of the first character, with counts of ASCII letters, which they take of all; the two
notions meet on words of ASCII letters, and all others are proper nouns. So the two rules on first
words look for small letters and for a capital before small letters (`Rule.firstWord_verdicts`).
-/

namespace CommitStyle

/-! ## Small and capitalised texts -/

namespace Text

/-- Small letters of ASCII and nothing else. -/
def IsSmall (t : Text) : Prop :=
  ∀ c ∈ t, c.isLower = true

instance (t : Text) : Decidable (IsSmall t) :=
  List.decidableBAll (fun c : Char => c.isLower = true) t

/-- A capital of ASCII before small letters. -/
def IsCapitalised (t : Text) : Prop :=
  ∃ c small, t = c :: small ∧ c.isUpper = true ∧ IsSmall small

theorem isSmall_cons {c : Char} {t : Text} :
    IsSmall (c :: t) ↔ c.isLower = true ∧ IsSmall t :=
  List.forall_mem_cons

theorem isCapitalised_cons {c : Char} {t : Text} :
    IsCapitalised (c :: t) ↔ c.isUpper = true ∧ IsSmall t := by
  constructor
  · rintro ⟨d, small, heq, hupper, hsmall⟩
    cases heq
    exact ⟨hupper, hsmall⟩
  · rintro ⟨hupper, hsmall⟩
    exact ⟨c, t, rfl, hupper, hsmall⟩

theorem IsSmall.isAlpha {t : Text} (h : IsSmall t) : ∀ c ∈ t, c.isAlpha = true :=
  fun c hc => isAlpha_of_isLower (h c hc)

theorem IsCapitalised.isAlpha {t : Text} (h : IsCapitalised t) : ∀ c ∈ t, c.isAlpha = true := by
  obtain ⟨c, small, rfl, hupper, hsmall⟩ := h
  exact List.forall_mem_cons.2 ⟨isAlpha_of_isUpper hupper, hsmall.isAlpha⟩

theorem not_isSmall_of_isCapitalised {t : Text} (h : IsCapitalised t) : ¬IsSmall t := by
  obtain ⟨c, small, rfl, hupper, -⟩ := h
  intro hsmall
  cases hupper.symm.trans (isUpper_eq_false_of_isLower (hsmall c List.mem_cons_self))

/-- Among letters of ASCII, those without a capital are the small ones. -/
theorem countP_isUpper_eq_zero_iff {t : Text} (h : ∀ c ∈ t, c.isAlpha = true) :
    t.countP Char.isUpper = 0 ↔ IsSmall t := by
  rw [List.countP_eq_zero]
  refine forall₂_congr fun c hc => ?_
  rw [isLower_eq_not_isUpper (h c hc), Bool.not_eq_true, Bool.not_eq_true']

end Text

/-! ## Shapes of words -/

namespace Word

open Text

variable {w : Word}

theorem nonLetters_eq_zero_iff : w.nonLetters = 0 ↔ ∀ c ∈ w.text, c.isAlpha = true := by
  unfold nonLetters
  rw [List.countP_eq_zero]
  simp

theorem startsSentence_iff : w.startsSentence = true ↔ IsCapitalised w.text := by
  cases htext : w.text with
  | nil => simp [startsSentence, IsCapitalised, htext]
  | cons c rest =>
    have hstarts : w.startsSentence = true ↔
        isUppercase c = true ∧ w.capitals = 1 ∧ ∀ d ∈ c :: rest, d.isAlpha = true := by
      rw [← htext, ← nonLetters_eq_zero_iff]
      simp [startsSentence, htext, and_assoc]
    rw [hstarts, isCapitalised_cons, capitals, htext, List.countP_cons]
    constructor
    · rintro ⟨hupper, hcount, hletters⟩
      rw [List.forall_mem_cons] at hletters
      rw [isUppercase_of_isAlpha hletters.1] at hupper
      rw [if_pos hupper, Nat.add_eq_right, countP_isUpper_eq_zero_iff hletters.2] at hcount
      exact ⟨hupper, hcount⟩
    · rintro ⟨hupper, hsmall⟩
      have hletter := isAlpha_of_isUpper hupper
      refine ⟨(isUppercase_of_isAlpha hletter).trans hupper, ?_,
        List.forall_mem_cons.2 ⟨hletter, hsmall.isAlpha⟩⟩
      rw [if_pos hupper, (countP_isUpper_eq_zero_iff hsmall.isAlpha).2 hsmall]

/-- A proper noun is a word of neither of the other shapes. -/
theorem isProperNoun_iff : w.isProperNoun = true ↔
    w.text ≠ [] ∧ ¬IsCapitalised w.text ∧ ¬IsSmall w.text := by
  cases htext : w.text with
  | nil => simp [isProperNoun, htext]
  | cons c rest =>
    have hproper : w.isProperNoun = true ↔ (∀ d ∈ c :: rest, d.isAlpha = true) →
        isUppercase c = true ∧ 1 < w.capitals ∨ isLowercase c = true ∧ 0 < w.capitals := by
      rw [← htext, ← nonLetters_eq_zero_iff, imp_iff_not_or]
      simp [isProperNoun, htext, or_assoc, Nat.pos_iff_ne_zero]
    rw [hproper]
    by_cases hletters : ∀ d ∈ c :: rest, d.isAlpha = true
    · -- In a word of letters the case of the first decides which shapes are left.
      obtain ⟨hletter, hrest⟩ := List.forall_mem_cons.1 hletters
      have hsmall := countP_isUpper_eq_zero_iff hrest
      rw [imp_iff_right hletters, isCapitalised_cons, isSmall_cons,
        isUppercase_of_isAlpha hletter, isLowercase_of_isAlpha hletter,
        isLower_eq_not_isUpper hletter, capitals, htext, List.countP_cons, ← hsmall]
      cases hupper : c.isUpper <;> simp [Nat.pos_iff_ne_zero]
    · have hcapitalised : ¬IsCapitalised (c :: rest) := mt IsCapitalised.isAlpha hletters
      have hsmall : ¬IsSmall (c :: rest) := mt IsSmall.isAlpha hletters
      simp [hcapitalised, hsmall, -List.mem_cons, hletters]

theorem isSmall_iff :
    IsSmall w.text ↔ w.startsSentence = false ∧ w.isProperNoun = false := by
  rw [← Bool.not_eq_true, ← Bool.not_eq_true, startsSentence_iff, isProperNoun_iff]
  constructor
  · exact fun hsmall => ⟨fun h => not_isSmall_of_isCapitalised h hsmall, fun h => h.2.2 hsmall⟩
  · rintro ⟨hcapitalised, hproper⟩
    by_contra hsmall
    refine hproper ⟨?_, hcapitalised, hsmall⟩
    intro hnil
    rw [hnil] at hsmall
    exact hsmall (List.forall_mem_nil _)

/-- The three shapes of a word. -/
inductive Shape where
  | capitalised | properNoun | small

/-- The word has the shape. -/
def HasShape (w : Word) : Shape → Prop
  | .capitalised => w.startsSentence = true
  | .properNoun => w.isProperNoun = true
  | .small => IsSmall w.text

theorem existsUnique_shape (hne : w.text ≠ []) : ∃! s, w.HasShape s := by
  by_cases hcapitalised : IsCapitalised w.text
  · refine ⟨.capitalised, startsSentence_iff.2 hcapitalised, ?_⟩
    rintro (_ | _ | _) hs
    · rfl
    · exact absurd hcapitalised (isProperNoun_iff.1 hs).2.1
    · exact absurd hs (not_isSmall_of_isCapitalised hcapitalised)
  by_cases hsmall : IsSmall w.text
  · refine ⟨.small, hsmall, ?_⟩
    rintro (_ | _ | _) hs
    · exact absurd (startsSentence_iff.1 hs) hcapitalised
    · exact absurd hsmall (isProperNoun_iff.1 hs).2.2
    · rfl
  · refine ⟨.properNoun, isProperNoun_iff.2 ⟨hne, hcapitalised, hsmall⟩, ?_⟩
    rintro (_ | _ | _) hs
    · exact absurd (startsSentence_iff.1 hs) hcapitalised
    · rfl
    · exact absurd hs hsmall

end Word

/-! ## The two rules -/

namespace Header

open Text

theorem afterArea?_eq_some_iff {h rest : Text} : afterArea? h = some rest ↔
    ∃ area, h = area ++ ':' :: rest ∧ ':' ∉ area ∧ area ≠ [] := by
  constructor
  · intro hrest
    by_cases hcolon : ':' ∈ h
    · obtain ⟨area, b, rfl, harea⟩ := List.eq_append_cons_of_mem hcolon
      have hne : area ≠ [] := by
        rintro rfl
        cases hrest
      rw [afterArea?_append harea hne] at hrest
      cases hrest
      exact ⟨area, rfl, harea, hne⟩
    · rw [afterArea?_of_not_mem hcolon] at hrest
      cases hrest
  · rintro ⟨area, rfl, harea, hne⟩
    exact afterArea?_append harea hne rest

variable {h : Text} (hb : '\n' ∉ h)
include hb

theorem exists_lacksCapital : ∃ b, lacksCapital h = .ok b ∧
    (b = true ↔ ':' ∉ h ∧ IsSmall (firstWord h)) := by
  have hword : '\n' ∉ firstWord h := fun hmem => hb ((prefix_firstWord h).subset hmem)
  unfold lacksCapital
  rw [Word.ofText?_firstWord, dif_neg hword]
  split
  · next hcolon => exact ⟨false, rfl, by simp [hcolon]⟩
  · next hcolon =>
    refine ⟨_, rfl, ?_⟩
    rw [Bool.and_eq_true, Bool.not_eq_true', Bool.not_eq_true', ← Word.isSmall_iff]
    exact (and_iff_right hcolon).symm

theorem exists_hasCapitalSubject : ∃ b, hasCapitalSubject h = .ok b ∧
    (b = true ↔ ∃ rest, afterArea? h = some rest ∧ 1 < (trim rest).length ∧
      IsCapitalised (firstWord (trim rest))) := by
  unfold hasCapitalSubject
  cases hrest : afterArea? h with
  | none => exact ⟨false, rfl, by simp⟩
  | some rest =>
    have hword : '\n' ∉ firstWord (trim rest) := fun hmem =>
      hb (mem_of_mem_afterArea hrest
        ((infix_trim rest).subset ((prefix_firstWord (trim rest)).subset hmem)))
    simp only [Word.ofText?_firstWord, dif_neg hword, Option.some.injEq, exists_eq_left']
    split
    · next hlong => exact ⟨_, rfl, by simp [Word.startsSentence_iff, hlong]⟩
    · next hshort => exact ⟨false, rfl, by simp [hshort]⟩

end Header

namespace Rule

open Text

/-- Every word that is not empty has exactly one of three shapes. The rule on titles fails exactly
if there is no colon and the first word is made of small letters, the rule on subjects exactly if
there is more than one character behind the first colon, which does not open the header, and the
first word there is capitalised. -/
theorem firstWord_verdicts (o : Options) :
    (∀ w : Word, w.text ≠ [] → ∃! s, w.HasShape s) ∧
    ∀ m : Message, m.Received →
      (∃ v, check .titleUppercase o m = .ok v ∧
        (v.passed = false ↔ ':' ∉ m.header ∧ IsSmall (firstWord m.header))) ∧
      ∃ v, check .subjectLowercase o m = .ok v ∧
        (v.passed = false ↔ ∃ area rest, m.header = area ++ ':' :: rest ∧ ':' ∉ area ∧ area ≠ [] ∧
          1 < (trim rest).length ∧ IsCapitalised (firstWord (trim rest))) := by
  refine ⟨fun w hne => Word.existsUnique_shape hne, fun m hm => ⟨?_, ?_⟩⟩
  · obtain ⟨b, hb, hiff⟩ := Header.exists_lacksCapital hm.unbroken
    obtain ⟨v, hv, hpassed⟩ := exists_verdict (r := .titleUppercase) (o := o) hb
    exact ⟨v, hv, hpassed.trans hiff⟩
  · obtain ⟨b, hb, hiff⟩ := Header.exists_hasCapitalSubject hm.unbroken
    obtain ⟨v, hv, hpassed⟩ := exists_verdict (r := .subjectLowercase) (o := o) hb
    refine ⟨v, hv, (hpassed.trans hiff).trans ⟨?_, ?_⟩⟩
    · rintro ⟨rest, hrest, hlong, hword⟩
      obtain ⟨area, heq, harea, hne⟩ := Header.afterArea?_eq_some_iff.1 hrest
      exact ⟨area, rest, heq, harea, hne, hlong, hword⟩
    · rintro ⟨area, rest, heq, harea, hne, hlong, hword⟩
      exact ⟨rest, Header.afterArea?_eq_some_iff.2 ⟨area, heq, harea, hne⟩, hlong, hword⟩

/-- A word with a capital inside, a title of small letters and a capitalised subject. -/
theorem firstWord_verdicts_small :
    (∃! s, Word.HasShape ⟨"iOS".toList, by decide, by decide⟩ s) ∧
    (∃ m v, Message.parse "add parser".toList = .ok m ∧
      check .titleUppercase ({} : Config).options m = .ok v ∧ v.passed = false) ∧
    ∃ m v, Message.parse "core: Add parser".toList = .ok m ∧
      check .subjectLowercase ({} : Config).options m = .ok v ∧ v.passed = false := by
  obtain ⟨hshapes, hrules⟩ := firstWord_verdicts ({} : Config).options
  have htitle : Message.parse "add parser".toList =
      .ok ⟨"add parser".toList, "add parser".toList⟩ := by decide
  have hsubject : Message.parse "core: Add parser".toList =
      .ok ⟨"core: Add parser".toList, "core: Add parser".toList⟩ := by decide
  refine ⟨hshapes _ (by decide), ?_, ?_⟩
  · obtain ⟨v, hv, hiff⟩ := (hrules _ (.parsed htitle)).1
    exact ⟨_, v, htitle, hv, hiff.2 ⟨by decide, by decide⟩⟩
  · obtain ⟨v, hv, hiff⟩ := (hrules _ (.parsed hsubject)).2
    exact ⟨_, v, hsubject, hv, hiff.2 ⟨"core".toList, " Add parser".toList, rfl, by decide,
      by decide, by decide, 'A', "dd".toList, by decide, by decide, by decide⟩⟩

end Rule
end CommitStyle
