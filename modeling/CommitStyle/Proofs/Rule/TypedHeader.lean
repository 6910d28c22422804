import CommitStyle.Proofs.Rule.CodeJoin
import CommitStyle.Proofs.Rule.Safety
import Mathlib.Order.WellFounded

/-!
# Typed headers

The rule on types asks for a word, a scope in parentheses or none, and an exclamation mark or none,
in front of the colon and the space that start the subject. A header may be read so in several ways
(`Header.Typed`), since the scope may go up to any closing parenthesis with the start of a subject
behind it; the match is the reading with the longest scope (`Header.Typed.IsMatch`). One walk over
the header finds out whether there is a reading (`Header.hasType_iff_exists`). The other rules on
headers cut at the first colon, and where this colon is not in the scope they find the type, the
scope and the mark before it (`Header.Typed.area?_text`).
-/

namespace CommitStyle

namespace Header

open Text

/-! ## Readings of a header -/

/-- A header with a type. -/
@[ext] structure Typed where
  type : Text
  /-- What stands between the parentheses, if there are any. -/
  scope : Option Text
  /-- An exclamation mark stands before the colon. -/
  marked : Bool
  subject : Text
  type_ne_nil : type ≠ []
  type_word : ∀ c ∈ type, isWordChar c = true
  scope_unbroken : ∀ s ∈ scope, '\n' ∉ s

/-- The exclamation mark, if there is one. -/
def markOf (marked : Bool) : Text :=
  if marked then ['!'] else []

namespace Typed

variable (t : Typed)

/-- The scope with its parentheses. -/
def bracketed : Text :=
  match t.scope with
  | none => []
  | some s => '(' :: (s ++ [')'])

/-- The type, the scope and the mark. -/
def area : Text :=
  t.type ++ t.bracketed ++ markOf t.marked

/-- What stands behind the type. -/
def behind : Text :=
  t.bracketed ++ (markOf t.marked ++ ':' :: ' ' :: t.subject)

/-- The header. -/
def text : Text :=
  t.area ++ ':' :: ' ' :: t.subject

/-- The first colon of the header is in the part in parentheses. -/
def ColonInScope : Prop :=
  t.type.length ≤ t.text.idxOf ':' ∧ t.text.idxOf ':' < (t.type ++ t.bracketed).length

/-- The reading is the one of the header that has the longest scope. -/
structure IsMatch (h : Text) : Prop where
  text_eq : t.text = h
  longest : ∀ u : Typed, u.text = h → u.bracketed.length ≤ t.bracketed.length

theorem text_eq_append : t.text = t.type ++ t.behind := by
  simp [text, area, behind]

/-- No word goes on behind the type. -/
theorem head_behind : ∀ c ∈ t.behind.head?, isWordChar c = false := by
  unfold behind bracketed markOf
  cases t.scope with
  | some s => rintro _ ⟨⟩; decide
  | none => cases t.marked <;> (rintro _ ⟨⟩; decide)

theorem takeWhile_text : t.text.takeWhile isWordChar = t.type := by
  rw [text_eq_append]
  exact takeWhile_append_of_stop t.type_word t.head_behind

theorem dropWhile_text : t.text.dropWhile isWordChar = t.behind := by
  rw [text_eq_append]
  exact dropWhile_append_of_stop t.type_word t.head_behind

end Typed

/-! ## One walk -/

theorem startsSubject_iff {u : Text} : startsSubject u = true ↔
    ∃ marked subject, u = markOf marked ++ ':' :: ' ' :: subject := by
  unfold startsSubject
  rw [Bool.or_eq_true, List.isPrefixOf_iff_prefix, List.isPrefixOf_iff_prefix, Bool.exists_bool]
  exact or_congr (exists_congr fun _ => eq_comm) (exists_congr fun _ => eq_comm)

/-- The walk behind an opening parenthesis finds an end of the scope if there is one. -/
theorem closesScope_iff {u : Text} : closesScope u = true ↔
    ∃ s rest, u = s ++ ')' :: rest ∧ '\n' ∉ s ∧ startsSubject rest = true := by
  induction u with
  | nil => simp [closesScope]
  | cons c u ih =>
    rw [closesScope, Bool.or_eq_true, Bool.and_eq_true, Bool.and_eq_true, beq_iff_eq, bne_iff_ne,
      ih]
    constructor
    · rintro (⟨rfl, hstart⟩ | ⟨hc, s, rest, rfl, hs, hstart⟩)
      · exact ⟨[], u, rfl, List.not_mem_nil, hstart⟩
      · exact ⟨c :: s, rest, rfl, by simp [hs, Ne.symm hc], hstart⟩
    · rintro ⟨s, rest, heq, hs, hstart⟩
      cases s with
      | nil =>
        cases heq
        exact Or.inl ⟨rfl, hstart⟩
      | cons d s =>
        cases heq
        rw [List.mem_cons, not_or] at hs
        exact Or.inr ⟨Ne.symm hs.1, s, rest, rfl, hs.2, hstart⟩

/-- What the walk asks of a header, in terms of the place where the word at its start ends. -/
theorem hasType_iff_cut {h : Text} : hasType h = true ↔ ∃ word rest, h = word ++ rest ∧
    word ≠ [] ∧ (∀ c ∈ word, isWordChar c = true) ∧ (∀ c ∈ rest.head?, isWordChar c = false) ∧
    (startsSubject rest = true ∨ ∃ inner, rest = '(' :: inner ∧ closesScope inner = true) := by
  have hopen (rest : Text) : rest.head? = some '(' ∧ closesScope rest.tail = true ↔
      ∃ inner, rest = '(' :: inner ∧ closesScope inner = true := by
    cases rest <;> simp [and_comm]
  unfold hasType
  simp only [Bool.and_eq_true, Bool.or_eq_true, decide_eq_true_eq, beq_iff_eq, hopen]
  constructor
  · rintro ⟨hne, hrest⟩
    exact ⟨_, _, List.takeWhile_append_dropWhile.symm, hne, fun c => List.mem_takeWhile_imp,
      stop_dropWhile h, hrest⟩
  · rintro ⟨word, rest, rfl, hne, hword, hstop, hrest⟩
    rw [takeWhile_append_of_stop hword hstop, dropWhile_append_of_stop hword hstop]
    exact ⟨hne, hrest⟩

/-- The walk accepts the headers that can be read with a type. -/
theorem hasType_iff_exists {h : Text} : hasType h = true ↔ ∃ t : Typed, t.text = h := by
  rw [hasType_iff_cut]
  constructor
  · rintro ⟨word, rest, rfl, hne, hword, -, hstart | ⟨inner, rfl, hclose⟩⟩
    · obtain ⟨marked, subject, rfl⟩ := startsSubject_iff.1 hstart
      exact ⟨⟨word, none, marked, subject, hne, hword, by simp⟩, Typed.text_eq_append _⟩
    · obtain ⟨s, rest, rfl, hs, hstart⟩ := closesScope_iff.1 hclose
      obtain ⟨marked, subject, rfl⟩ := startsSubject_iff.1 hstart
      refine ⟨⟨word, some s, marked, subject, hne, hword, by simpa using hs⟩, ?_⟩
      simp [Typed.text_eq_append, Typed.behind, Typed.bracketed]
  · rintro ⟨t, rfl⟩
    refine ⟨t.type, t.behind, t.text_eq_append, t.type_ne_nil, t.type_word, t.head_behind, ?_⟩
    have hstart : startsSubject (markOf t.marked ++ ':' :: ' ' :: t.subject) = true :=
      startsSubject_iff.2 ⟨_, _, rfl⟩
    unfold Typed.behind Typed.bracketed
    cases hscope : t.scope with
    | none => exact Or.inl hstart
    | some s =>
      exact Or.inr ⟨_, rfl, closesScope_iff.2
        ⟨s, _, by simp, t.scope_unbroken s hscope, hstart⟩⟩

/-- A word with the start of the subject behind it, or with a parenthesis that is closed somewhere
right before the start of the subject. -/
def StartsWithType (h : Text) : Prop :=
  ∃ word rest, h = word ++ rest ∧ word ≠ [] ∧ (∀ c ∈ word, isWordChar c = true) ∧
    (∀ c ∈ rest.head?, isWordChar c = false) ∧
    (": ".toList <+: rest ∨ "!: ".toList <+: rest ∨
      ∃ inner, rest = '(' :: inner ∧ ("): ".toList <:+: inner ∨ ")!: ".toList <:+: inner))

theorem closesScope_iff_infix {u : Text} (hu : '\n' ∉ u) :
    closesScope u = true ↔ "): ".toList <:+: u ∨ ")!: ".toList <:+: u := by
  rw [closesScope_iff]
  constructor
  · rintro ⟨s, rest, rfl, -, hstart⟩
    obtain ⟨marked, subject, rfl⟩ := startsSubject_iff.1 hstart
    cases marked with
    | false => exact Or.inl ⟨s, subject, by simp [markOf]⟩
    | true => exact Or.inr ⟨s, subject, by simp [markOf]⟩
  · rintro (⟨s, subject, rfl⟩ | ⟨s, subject, rfl⟩)
    · exact ⟨s, ':' :: ' ' :: subject, by simp, fun hs => hu (by simp [hs]), rfl⟩
    · exact ⟨s, '!' :: ':' :: ' ' :: subject, by simp, fun hs => hu (by simp [hs]), rfl⟩

/-- In a header of one line any scope may be closed. -/
theorem hasType_iff_startsWithType {h : Text} (hb : '\n' ∉ h) :
    hasType h = true ↔ StartsWithType h := by
  rw [hasType_iff_cut]
  refine exists_congr fun word => exists_congr fun rest => and_congr_right fun hsplit =>
    and_congr_right fun _ => and_congr_right fun _ => and_congr_right fun _ => ?_
  have hinner (inner : Text) (h : rest = '(' :: inner) :
      closesScope inner = true ↔ "): ".toList <:+: inner ∨ ")!: ".toList <:+: inner :=
    closesScope_iff_infix fun hmem => hb (by simp [hsplit, h, hmem])
  unfold startsSubject
  rw [Bool.or_eq_true, List.isPrefixOf_iff_prefix, List.isPrefixOf_iff_prefix, or_assoc]
  exact or_congr_right (or_congr_right (exists_congr fun inner => and_congr_right (hinner inner)))

/-! ## The match -/

namespace Typed

/-- A reading is known by the header and the length of its scope. -/
theorem eq_of_text_eq {t u : Typed} (h : t.text = u.text)
    (hlength : t.bracketed.length = u.bracketed.length) : t = u := by
  have htype : t.type = u.type := by rw [← t.takeWhile_text, h, u.takeWhile_text]
  have hbehind : t.behind = u.behind := by rw [← t.dropWhile_text, h, u.dropWhile_text]
  obtain ⟨hscope, hrest⟩ := List.append_inj hbehind hlength
  have hmarked : t.marked = u.marked ∧ t.subject = u.subject := by
    unfold markOf at hrest
    cases ht : t.marked <;> cases hu : u.marked <;> simp_all
  refine Typed.ext htype ?_ hmarked.1 hmarked.2
  unfold bracketed at hscope
  cases ht : t.scope <;> cases hu : u.scope <;> simp_all

theorem existsUnique_isMatch {h : Text} (hex : ∃ t : Typed, t.text = h) :
    ∃! t : Typed, t.IsMatch h := by
  have hle (t : Typed) (ht : t.text = h) : t.bracketed.length ≤ h.length := by
    rw [← ht, text_eq_append, behind, List.length_append, List.length_append]
    omega
  obtain ⟨t, ht, hmin⟩ :=
    (measure fun t : Typed => h.length - t.bracketed.length).wf.has_min {t | t.text = h} hex
  have hlongest (u : Typed) (hu : u.text = h) : u.bracketed.length ≤ t.bracketed.length := by
    have hnot : ¬h.length - u.bracketed.length < h.length - t.bracketed.length := hmin u hu
    have := hle u hu
    omega
  refine ⟨t, ⟨ht, hlongest⟩, fun u hu => ?_⟩
  exact eq_of_text_eq (hu.text_eq.trans ht.symm)
    (Nat.le_antisymm (hlongest u hu.text_eq) (hu.longest t ht))

/-! ## The first colon -/

variable {t : Typed}

theorem colon_not_mem_area (h : ¬t.ColonInScope) : ':' ∉ t.area := by
  have htype : ':' ∉ t.type := fun hc => absurd (t.type_word _ hc) (by decide)
  have hmark : ':' ∉ markOf t.marked := by
    cases t.marked <;> decide
  have hscope : ':' ∉ t.bracketed := by
    intro hc
    have hindex : t.text.idxOf ':' = t.type.length + t.bracketed.idxOf ':' := by
      rw [text_eq_append, List.idxOf_append_of_notMem htype, behind, List.idxOf_append_of_mem hc]
    have := List.idxOf_lt_length_iff.2 hc
    refine h ⟨by omega, ?_⟩
    rw [List.length_append]
    omega
  simp [area, htype, hscope, hmark]

theorem area?_text (h : ¬t.ColonInScope) : area? t.text = some t.area :=
  area?_append (colon_not_mem_area h) _

theorem not_lacksColonSpace (h : ¬t.ColonInScope) : lacksColonSpace t.text = false := by
  have hne : t.area ≠ [] := by simp [area, t.type_ne_nil]
  unfold lacksColonSpace text
  rw [afterArea?_append (colon_not_mem_area h) hne]
  rfl

theorem lacksCapital_text (t : Typed) : lacksCapital t.text = .ok false := by
  unfold lacksCapital
  rw [if_pos (by simp [text])]

end Typed
end Header

namespace Rule

open Header

/-- The rule on types passes the headers that can be read with a type. On one line these are the
headers with a word at the start and the start of the subject behind it, or a parenthesis that is
closed right before such a start. One reading has the longest scope. In a reading with the first
colon behind the scope, the type, the scope and the mark are all that stands before this colon, and
the rules on the space behind the first colon and on the capital of a title pass. -/
theorem typeEmpty_reads_type (o : Options) (m : Message) :
    (Passes .typeEmpty o m ↔ ∃ t : Typed, t.text = m.header) ∧
    ('\n' ∉ m.header → (Passes .typeEmpty o m ↔ StartsWithType m.header)) ∧
    (Passes .typeEmpty o m → ∃! t : Typed, t.IsMatch m.header) ∧
    ∀ t : Typed, t.text = m.header → ¬t.ColonInScope →
      area? m.header = some t.area ∧ Passes .typeSpaceAfterColon o m ∧
        Passes .titleUppercase o m := by
  have htype : Passes .typeEmpty o m ↔ hasType m.header = true := by
    rw [passes_iff rfl, Bool.not_eq_true, Bool.not_eq_false']
  rw [htype]
  refine ⟨hasType_iff_exists, hasType_iff_startsWithType,
    fun hpass => Typed.existsUnique_isMatch (hasType_iff_exists.1 hpass), fun t ht hcolon => ?_⟩
  have hcapital : Rule.titleUppercase.offends o m = .ok false := by
    rw [offends, ← ht, Typed.lacksCapital_text]
  refine ⟨ht ▸ Typed.area?_text hcolon, (passes_iff rfl).2 ?_, (passes_iff hcapital).2 ?_⟩
  · rw [← ht, Typed.not_lacksColonSpace hcolon]
    exact Bool.false_ne_true
  · exact Bool.false_ne_true

/-- A scope with a space in it, an exclamation mark, and parentheses in the subject. -/
theorem typeEmpty_reads_type_marked :
    ∃ m : Message, m.header = "core(url, host)!: keep (all) ports".toList ∧
      Passes .typeEmpty ({} : Config).options m ∧
      area? m.header = some "core(url, host)!".toList ∧
      Passes .titleUppercase ({} : Config).options m := by
  let m : Message :=
    ⟨"core(url, host)!: keep (all) ports".toList, "core(url, host)!: keep (all) ports".toList⟩
  let t : Typed := ⟨"core".toList, some "url, host".toList, true, "keep (all) ports".toList,
    by decide, List.all_eq_true.1 (by decide), by decide⟩
  obtain ⟨-, hpasses, -, hreading⟩ := typeEmpty_reads_type ({} : Config).options m
  have hstarts : StartsWithType m.header :=
    ⟨t.type, t.behind, rfl, by decide, t.type_word, t.head_behind,
      Or.inr (Or.inr ⟨_, rfl, Or.inr ⟨"url, host".toList, "keep (all) ports".toList, rfl⟩⟩)⟩
  obtain ⟨harea, -, htitle⟩ := hreading t rfl (by unfold Typed.ColonInScope; decide)
  exact ⟨m, rfl, (hpasses (by decide)).2 hstarts, harea, htitle⟩

end Rule
end CommitStyle
