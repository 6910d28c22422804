import CommitStyle.Proofs.Message.Footer
import CommitStyle.Proofs.Rule.Misuse
import CommitStyle.Proofs.Text.Cut

/-!
# References and their footers

A number is cited or listed where it stands between two brackets. The numbers that are read off a
text are those that a search finds which goes on behind each match (`searched_iff`), and these are
all numbers between brackets (`mem_bracketedNumbers_iff`), since a match has one opening bracket and
no other match begins in it. So the rule on references compares two sets that depend on the lines of
the body alone, not on their order or number (`Rule.references_agree`).
-/

namespace CommitStyle

open Text

/-! ## Numbers between brackets -/

/-- One or more digits of ASCII. -/
def IsNumber (d : Text) : Prop :=
  d ≠ [] ∧ ∀ c ∈ d, c.isDigit = true

/-- The number with brackets around it. -/
def bracketed (d : Text) : Text :=
  '[' :: d ++ [']']

/-- The number stands between brackets in the text. -/
def HasNumber (t d : Text) : Prop :=
  IsNumber d ∧ bracketed d <:+: t

/-- The only number at an opening bracket is the longest run of digits behind it. -/
theorem bracketed_prefix_cons_iff {d t : Text} {c : Char} :
    IsNumber d ∧ bracketed d <+: c :: t ↔ c = '[' ∧ t.takeWhile Char.isDigit = d ∧ d ≠ [] ∧
      (t.dropWhile Char.isDigit).head? = some ']' := by
  have hclose : Char.isDigit ']' = false := by decide
  constructor
  · rintro ⟨⟨hne, hdigits⟩, more, hmore⟩
    rw [bracketed, List.cons_append, List.cons_append, List.append_assoc,
      List.singleton_append] at hmore
    cases hmore
    refine ⟨rfl, takeWhile_append_cons_of_pos hdigits hclose more, hne, ?_⟩
    rw [dropWhile_append_cons_of_pos hdigits hclose, List.head?_cons]
  · rintro ⟨rfl, rfl, hne, hhead⟩
    obtain ⟨more, hmore⟩ := List.head?_eq_some_iff.1 hhead
    refine ⟨⟨hne, fun c hc => List.mem_takeWhile_imp hc⟩, more, ?_⟩
    conv_rhs => rw [← List.takeWhile_append_dropWhile (p := Char.isDigit) (l := t), hmore]
    simp [bracketed]

theorem mem_bracketedNumbers_iff {t d : Text} : d ∈ bracketedNumbers t ↔ HasNumber t d := by
  unfold HasNumber
  induction t with
  | nil => simp [bracketedNumbers, bracketed]
  | cons c t ih =>
    rw [List.infix_cons_iff, and_or_left, bracketed_prefix_cons_iff, ← ih, bracketedNumbers]
    split
    · next h =>
      rw [List.mem_cons]
      refine or_congr_left ⟨?_, fun hd => hd.2.1.symm⟩
      rintro rfl
      exact ⟨h.1, rfl, h.2⟩
    · next h =>
      refine (or_iff_right fun hd => h ?_).symm
      obtain ⟨hc, rfl, hrest⟩ := hd
      exact ⟨hc, hrest⟩

/-! ## The search -/

/-- The numbers that a search finds which walks through the text, stops at the first match and goes
on behind it. -/
inductive Searched : Text → List Text → Prop where
  | done : Searched [] []
  | found {d t : Text} {ds : List Text} (hd : IsNumber d) (behind : Searched t ds) :
      Searched (bracketed d ++ t) (d :: ds)
  | pass {c : Char} {t : Text} {ds : List Text}
      (hno : ∀ d, IsNumber d → ¬bracketed d <+: c :: t) (behind : Searched t ds) :
      Searched (c :: t) ds

theorem bracketedNumbers_bracketed {d : Text} (hd : IsNumber d) (t : Text) :
    bracketedNumbers (bracketed d ++ t) = d :: bracketedNumbers t := by
  have hopen : '[' ∉ d ++ [']'] := by
    rw [List.mem_append, List.mem_singleton, not_or]
    exact ⟨fun hmem => absurd (hd.2 '[' hmem) (by decide), by decide⟩
  obtain ⟨-, hdigits, hmatch⟩ :=
    bracketed_prefix_cons_iff.1 ⟨hd, List.prefix_append (bracketed d) t⟩
  change bracketedNumbers ('[' :: (d ++ [']'] ++ t)) = _
  change (d ++ [']'] ++ t).takeWhile Char.isDigit = d at hdigits
  rw [bracketedNumbers, hdigits, if_pos ⟨rfl, hmatch⟩, Message.bracketedNumbers_append hopen]

theorem bracketedNumbers_pass {c : Char} {t : Text}
    (hno : ∀ d, IsNumber d → ¬bracketed d <+: c :: t) :
    bracketedNumbers (c :: t) = bracketedNumbers t := by
  rw [bracketedNumbers]
  refine if_neg fun h => ?_
  obtain ⟨hd, hprefix⟩ := bracketed_prefix_cons_iff.2 ⟨h.1, rfl, h.2⟩
  exact hno _ hd hprefix

theorem exists_searched (t : Text) : ∃ ds, Searched t ds := by
  induction hlen : t.length using Nat.strong_induction_on generalizing t with
  | _ n ih =>
    cases t with
    | nil => exact ⟨[], .done⟩
    | cons c t =>
      by_cases hmatch : ∃ d, IsNumber d ∧ bracketed d <+: c :: t
      · obtain ⟨d, hd, rest, hrest⟩ := hmatch
        have hshorter : rest.length < n := by
          rw [← hlen, ← hrest, List.length_append, bracketed, List.cons_append, List.length_cons]
          omega
        obtain ⟨ds, hds⟩ := ih _ hshorter rest rfl
        exact ⟨d :: ds, hrest ▸ .found hd hds⟩
      · have hshorter : t.length < n := by
          rw [← hlen, List.length_cons]
          omega
        obtain ⟨ds, hds⟩ := ih _ hshorter t rfl
        exact ⟨ds, .pass (fun d hd hprefix => hmatch ⟨d, hd, hprefix⟩) hds⟩

/-- To go on behind a match loses no number, and to go on inside it would find no other. -/
theorem searched_iff {t : Text} {ds : List Text} : Searched t ds ↔ ds = bracketedNumbers t := by
  have heq {ds : List Text} (h : Searched t ds) : ds = bracketedNumbers t := by
    induction h with
    | done => rfl
    | found hd _ ih => rw [bracketedNumbers_bracketed hd, ← ih]
    | pass hno _ ih => rw [bracketedNumbers_pass hno, ← ih]
  refine ⟨heq, ?_⟩
  rintro rfl
  obtain ⟨ds, hds⟩ := exists_searched t
  exact heq hds ▸ hds

/-! ## Numbers of lines -/

/-- The number stands between brackets in one of the lines that are references, or in one of those
that are none. -/
def Mentioned (reference : Bool) (ls : List Line) (d : Text) : Prop :=
  ∃ l ∈ ls, l.isReference = reference ∧ HasNumber l.text d

theorem mem_flatMap_filter_iff {p : Line → Bool} {ls : List Line} {d : Text} :
    d ∈ (ls.filter p).flatMap (fun l => bracketedNumbers l.text) ↔
      ∃ l ∈ ls, p l = true ∧ HasNumber l.text d := by
  rw [List.mem_flatMap]
  simp only [List.mem_filter, mem_bracketedNumbers_iff, and_assoc]

theorem mem_citedNumbers_iff {ls : List Line} {d : Text} :
    d ∈ citedNumbers ls ↔ Mentioned false ls d := by
  unfold citedNumbers Mentioned
  rw [mem_flatMap_filter_iff]
  simp only [Bool.not_eq_true']

theorem mem_listedNumbers_iff {ls : List Line} {d : Text} :
    d ∈ listedNumbers ls ↔ Mentioned true ls d :=
  mem_flatMap_filter_iff

theorem mentioned_congr {ls ks : List Line} (h : ∀ l, l ∈ ls ↔ l ∈ ks) (reference : Bool)
    (d : Text) : Mentioned reference ls d ↔ Mentioned reference ks d := by
  unfold Mentioned
  simp only [h]

/-- A number that is in one line alone is mentioned in lines of its kind alone. -/
theorem isReference_of_mentioned {above below : List Line} {l : Line} {d : Text} {r : Bool}
    (honly : ∀ k ∈ above ++ below, ¬HasNumber k.text d)
    (h : Mentioned r (above ++ l :: below) d) : l.isReference = r := by
  obtain ⟨k, hk, hkind, hnumber⟩ := h
  rw [List.mem_append, List.mem_cons, or_left_comm, ← List.mem_append] at hk
  rcases hk with rfl | hk
  · exact hkind
  · exact absurd hnumber (honly k hk)

namespace Message

theorem sameNumbers_iff {a b : List Text} : sameNumbers a b = true ↔ ∀ d, d ∈ a ↔ d ∈ b := by
  unfold sameNumbers
  rw [Bool.and_eq_true, List.all_eq_true, List.all_eq_true]
  simp only [List.contains_iff_mem]
  exact ⟨fun h d => ⟨h.1 d, h.2 d⟩, fun h => ⟨fun d => (h d).1, fun d => (h d).2⟩⟩

theorem not_hasUnmatchedReference_iff {m : Message} : m.hasUnmatchedReference = false ↔
    ∀ d, Mentioned false m.bodyLines d ↔ Mentioned true m.bodyLines d := by
  unfold hasUnmatchedReference
  rw [Bool.not_eq_false', sameNumbers_iff]
  simp only [mem_citedNumbers_iff, mem_listedNumbers_iff]

theorem hasUnmatchedReference_congr {m n : Message} (h : ∀ l, l ∈ m.bodyLines ↔ l ∈ n.bodyLines) :
    m.hasUnmatchedReference = n.hasUnmatchedReference := by
  rw [Bool.eq_iff_iff, ← not_iff_not, Bool.not_eq_true, Bool.not_eq_true,
    not_hasUnmatchedReference_iff, not_hasUnmatchedReference_iff]
  simp only [mentioned_congr h]

theorem hasUnmatchedReference_of_line {m : Message} {above below : List Line} {l : Line} {d : Text}
    (hlines : m.bodyLines = above ++ l :: below) (hd : HasNumber l.text d)
    (honly : ∀ k ∈ above ++ below, ¬HasNumber k.text d) : m.hasUnmatchedReference = true := by
  rw [← Bool.not_eq_false, not_hasUnmatchedReference_iff, hlines]
  intro hsame
  have hhere : Mentioned l.isReference (above ++ l :: below) d := ⟨l, by simp, rfl, hd⟩
  have hother : Mentioned (!l.isReference) (above ++ l :: below) d := by
    cases hkind : l.isReference with
    | false => exact (hsame d).1 (hkind ▸ hhere)
    | true => exact (hsame d).2 (hkind ▸ hhere)
  exact (Bool.eq_not_self _).1 (isReference_of_mentioned honly hother)

end Message

/-! ## The rule -/

namespace Rule

/-- The numbers that are cited are those between brackets in the lines that are no references, as a
search finds them, and the numbers that are listed those in the references. The rule passes if both
are the same. Its verdict is the same on two bodies with the same lines, in whatever order and how
often they stand there, and a line with a number that is in no other line makes it fail. -/
theorem references_agree (o : Options) :
    (∀ t ds, Searched t ds ↔ ds = bracketedNumbers t) ∧
    (∀ ls d, (d ∈ citedNumbers ls ↔ Mentioned false ls d) ∧
      (d ∈ listedNumbers ls ↔ Mentioned true ls d)) ∧
    (∀ m, ∃ v, check .footerReferencesExistence o m = .ok v ∧ (v.passed = true ↔
      ∀ d, Mentioned false m.bodyLines d ↔ Mentioned true m.bodyLines d)) ∧
    (∀ m n : Message, (∀ l, l ∈ m.bodyLines ↔ l ∈ n.bodyLines) →
      check .footerReferencesExistence o m = check .footerReferencesExistence o n) ∧
    ∀ (m n : Message) (above : List Line) (l : Line) (below : List Line) (d : Text),
      m.bodyLines = above ++ below → n.bodyLines = above ++ l :: below → HasNumber l.text d →
        (∀ k ∈ m.bodyLines, ¬HasNumber k.text d) →
          ∃ v, check .footerReferencesExistence o n = .ok v ∧ v.passed = false := by
  refine ⟨fun t ds => searched_iff, fun ls d => ⟨mem_citedNumbers_iff, mem_listedNumbers_iff⟩,
    fun m => ?_, fun m n h => ?_, fun m n above l below d hm hn hd honly => ?_⟩
  · obtain ⟨v, hv, hpassed⟩ :=
      exists_verdict (r := .footerReferencesExistence) (o := o) (m := m) rfl
    refine ⟨v, hv, ?_⟩
    rw [← Bool.not_eq_false, hpassed, Bool.not_eq_true]
    exact Message.not_hasUnmatchedReference_iff
  · unfold check offends diagnostic
    rw [Message.hasUnmatchedReference_congr h]
  · obtain ⟨v, hv, hpassed⟩ :=
      exists_verdict (r := .footerReferencesExistence) (o := o) (m := n) rfl
    rw [hm] at honly
    exact ⟨v, hv, hpassed.2 (Message.hasUnmatchedReference_of_line hn hd honly)⟩

/-- A body with its lines in another order, one of them twice ; then with a line more, which has a
second number in two pairs of brackets. -/
theorem references_agree_reordered :
    check .footerReferencesExistence ({} : Config).options
        ⟨"core: x\n\nIt reads [1].\n\n[1] https://example.com".toList, "core: x".toList⟩ =
      check .footerReferencesExistence ({} : Config).options
        ⟨"core: x\n\n[1] https://example.com\nIt reads [1].\n\nIt reads [1].".toList,
          "core: x".toList⟩ ∧
    ∃ v, check .footerReferencesExistence ({} : Config).options
        ⟨"core: x\n\nIt reads [1].\nSee [[2]].\n\n[1] https://example.com".toList,
          "core: x".toList⟩ = .ok v ∧ v.passed = false := by
  obtain ⟨-, -, -, hreorder, hadd⟩ := references_agree ({} : Config).options
  have hinj : Function.Injective Line.text := fun _ _ => Line.ext
  have hlines : (⟨"core: x\n\nIt reads [1].\n\n[1] https://example.com".toList,
      "core: x".toList⟩ : Message).bodyLines.map Line.text =
        ["It reads [1].".toList, [], "[1] https://example.com".toList] := by decide +kernel
  constructor
  · refine hreorder _ _ fun l => ?_
    have hother : (⟨"core: x\n\n[1] https://example.com\nIt reads [1].\n\nIt reads [1].".toList,
        "core: x".toList⟩ : Message).bodyLines.map Line.text =
          ["[1] https://example.com".toList, "It reads [1].".toList, [],
            "It reads [1].".toList] := by decide +kernel
    have hsame (t a r : Text) : t ∈ [a, [], r] ↔ t ∈ [r, a, [], a] := by
      simp only [List.mem_cons, List.not_mem_nil]
      tauto
    rw [← List.mem_map_of_injective hinj, hlines, ← List.mem_map_of_injective hinj, hother]
    exact hsame l.text _ _
  · refine hadd ⟨"core: x\n\nIt reads [1].\n\n[1] https://example.com".toList,
      "core: x".toList⟩ _ [⟨"It reads [1].".toList, by decide⟩] ⟨"See [[2]].".toList, by decide⟩
      [⟨[], by decide⟩, ⟨"[1] https://example.com".toList, by decide⟩] "2".toList
      ((List.map_inj_right fun _ _ => Line.ext).1 hlines)
      ((List.map_inj_right fun _ _ => Line.ext).1 (by decide +kernel))
      (mem_bracketedNumbers_iff.1 (by decide)) fun k hk hnumber => ?_
    have htext : k.text ∈ _ := List.mem_map_of_mem hk
    have hnone : ∀ t ∈ ["It reads [1].".toList, [], "[1] https://example.com".toList],
        "2".toList ∉ bracketedNumbers t := by decide
    exact hnone k.text (hlines ▸ htext) (mem_bracketedNumbers_iff.2 hnumber)

end Rule
end CommitStyle
