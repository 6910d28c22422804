import CommitStyle.Json.Reader
import CommitStyle.Json.Writer
import CommitStyle.Proofs.Text.Cut

/-!
# Strings and numbers

A string is read character by character from what its characters are escaped as
(`Json.readString?_escape`), so it comes back whole in front of its closing quote
(`Json.readString?_write`). The digits of an integer are read up to a character that no number goes
on with (`Json.readNumber?_write`).
-/

namespace CommitStyle.Json

/-! ## Strings -/

theorem hexDigit?_hexDigit (n : Nat) : hexDigit? (hexDigit n) = some (n % 16) := by
  have hdigit : ∀ d < 16, hexDigit? (Nat.digitChar d) = some d := by decide
  exact hdigit _ (Nat.mod_lt _ (by decide))

/-- The code point of a control character is read from its last two digits. -/
theorem unit?_control {c : Char} (h : c.toNat < 0x20) :
    unit? '0' '0' (hexDigit (c.toNat / 16)) (hexDigit c.toNat) = some c.toNat := by
  have hzero : hexDigit? '0' = some 0 := by decide
  unfold unit?
  rw [hzero, hexDigit?_hexDigit, hexDigit?_hexDigit]
  show some _ = some _
  congr 1
  omega

/-- No control character is the first half of a surrogate pair. -/
theorem pair?_of_lt {high : Nat} (h : high < 0x20) (low : Nat) : pair? high low = none :=
  if_neg fun hpair => by omega

/-- The escape of a control character is one character, whatever escape follows it. -/
theorem readString?_unit {a b c d : Char} {n : Nat} (hunit : unit? a b c d = some n)
    (hn : n < 0x20) (t : Text) :
    readString? ('\\' :: 'u' :: a :: b :: c :: d :: t) =
      (readString? t).map fun (s, after) => (Char.ofNat n :: s, after) := by
  have hvalid : (unit? a b c d).filter Nat.isValidChar = some n := by
    rw [hunit]
    exact Option.filter_some_pos (decide_eq_true (Or.inl (by omega)))
  rw [readString?.eq_def]
  split
  · next h => cases h
  · next h => exact absurd (List.cons.inj h).1 (by decide)
  · next h =>
    cases h
    have hnone (low : Option Nat) :
        ((unit? a b c d).bind fun high => low.bind (pair? high)) = none := by
      rw [hunit, Option.bind_some]
      cases low with
      | none => rfl
      | some low => exact pair?_of_lt hn low
    rw [hnone, hvalid]
  · next h =>
    cases h
    rw [hvalid]
  · next hnot h =>
    cases h
    exact (hnot a b c d t rfl rfl).elim
  · next hnot h =>
    cases h
    exact (hnot _ _ rfl rfl).elim

theorem readString?_plain {c : Char} (hquote : c ≠ '\x22') (hslash : c ≠ '\\')
    (hcontrol : ¬ c.toNat < 0x20) (t : Text) :
    readString? (c :: t) = (readString? t).map fun (s, after) => (c :: s, after) := by
  rw [readString?.eq_def]
  split
  · next h => cases h
  · next h => exact (hquote (List.cons.inj h).1).elim
  · next h => exact (hslash (List.cons.inj h).1).elim
  · next h => exact (hslash (List.cons.inj h).1).elim
  · next h => exact (hslash (List.cons.inj h).1).elim
  · next h =>
    cases h
    rw [if_neg]
    simp [hcontrol, hslash]

/-- A character is read from what it is written as. -/
theorem readString?_escape (c : Char) (t : Text) :
    readString? (escape c ++ t) = (readString? t).map fun (s, after) => (c :: s, after) := by
  unfold escape
  split
  -- The escapes of two characters are told by their second one, so they are read by computation.
  · rfl
  · rfl
  · rfl
  · rfl
  · rfl
  · rfl
  · rfl
  · next hquote hslash _ _ _ _ _ =>
    split
    · next h =>
      refine (readString?_unit (unit?_control h) h t).trans ?_
      rw [Char.ofNat_toNat]
    · next h => exact readString?_plain hquote hslash h t

/-- A string is read up to its closing quote. -/
theorem readString?_write (s : Text) (rest : Text) :
    readString? (s.flatMap escape ++ '\x22' :: rest) = some (s, rest) := by
  induction s with
  | nil => rfl
  | cons c s ih =>
    rw [List.flatMap_cons, List.append_assoc, readString?_escape, ih]
    rfl

/-! ## Numbers -/

/-- No number goes on with the text. -/
def EndsNumber (t : Text) : Prop :=
  ∀ c ∈ t.head?, c.isDigit = false ∧ c ≠ '.' ∧ c ≠ 'e' ∧ c ≠ 'E'

theorem EndsNumber.head?_ne {t : Text} (h : EndsNumber t) {c : Char}
    (hc : c = '.' ∨ c = 'e' ∨ c = 'E') : (t.head? == some c) = false := by
  refine beq_false_of_ne fun heq => ?_
  obtain ⟨-, hdot, he, hE⟩ := h c heq
  rcases hc with rfl | rfl | rfl
  · exact hdot rfl
  · exact he rfl
  · exact hE rfl

theorem decimalValue_toDigits (n : Nat) : decimalValue (Nat.toDigits 10 n) = n :=
  Nat.ofDigitChars_ten_toDigits

/-- Only zero is written with a zero at the start. -/
theorem eq_zero_of_head?_toDigits {n : Nat} (h : (Nat.toDigits 10 n).head? = some '0') : n = 0 := by
  induction n using Nat.strongRecOn with
  | ind n ih =>
    by_cases hn : n < 10
    · rw [Nat.toDigits_of_lt_base hn] at h
      exact Nat.digitChar_eq_zero.1 (Option.some.inj h)
    · rw [Nat.toDigits_of_base_le (by decide) (by omega),
        List.head?_append_of_ne_nil _ Nat.toDigits_ne_nil] at h
      have := ih (n / 10) (by omega) h
      omega

section Digits

variable (n : Nat) {rest : Text} (hrest : EndsNumber rest)
include hrest

theorem takeWhile_toDigits :
    (Nat.toDigits 10 n ++ rest).takeWhile Char.isDigit = Nat.toDigits 10 n :=
  takeWhile_append_of_stop (fun _ h => Nat.isDigit_of_mem_toDigits (by decide) (by decide) h)
    fun c hc => (hrest c hc).1

theorem dropWhile_toDigits : (Nat.toDigits 10 n ++ rest).dropWhile Char.isDigit = rest :=
  dropWhile_append_of_stop (fun _ h => Nat.isDigit_of_mem_toDigits (by decide) (by decide) h)
    fun c hc => (hrest c hc).1

/-- Digits behind a sign or none are an integer, if it is one of 64 bits. -/
theorem readNumber?_of_digits {t : Text} {negative : Bool}
    (hsign : (t.head? == some '-') = negative)
    (hdigits : (if negative then t.tail else t) = Nat.toDigits 10 n ++ rest)
    (hrange : if negative then 0 < n ∧ n ≤ 0x8000000000000000 else n < 0x10000000000000000) :
    readNumber? t = some (.integer (if negative then -n else n), rest) := by
  have hzero : ¬ ((Nat.toDigits 10 n).head? = some '0' ∧ Nat.toDigits 10 n ≠ ['0']) := by
    rintro ⟨hhead, hne⟩
    rw [eq_zero_of_head?_toDigits hhead] at hne
    exact hne rfl
  have hdot := hrest.head?_ne (Or.inl rfl)
  have he := hrest.head?_ne (Or.inr (Or.inl rfl))
  have hE := hrest.head?_ne (Or.inr (Or.inr rfl))
  unfold readNumber?
  simp only [hsign, hdigits, takeWhile_toDigits n hrest, dropWhile_toDigits n hrest, hdot,
    decimalValue_toDigits, Nat.toDigits_ne_nil, hzero]
  cases negative with
  | false =>
    have hn : n < 0x10000000000000000 := hrange
    simp [he, hE, hn]
  | true =>
    have hn : 0 < n ∧ n ≤ 0x8000000000000000 := hrange
    simp [he, hE, hn]

end Digits

theorem write_natCast (n : Nat) : (Number.integer n).write = Nat.toDigits 10 n :=
  Nat.toList_repr

theorem write_negSucc (n : Nat) :
    (Number.integer (.negSucc n)).write = '-' :: Nat.toDigits 10 (n + 1) := by
  show ("-" ++ Nat.repr (n + 1)).toList = _
  rw [String.toList_append, Nat.toList_repr]
  rfl

theorem exists_digit_of_toDigits (n : Nat) :
    ∃ c cs, Nat.toDigits 10 n = c :: cs ∧ c.isDigit = true := by
  cases h : Nat.toDigits 10 n with
  | nil => exact absurd h Nat.toDigits_ne_nil
  | cons c cs =>
    refine ⟨c, cs, rfl, ?_⟩
    exact Nat.isDigit_of_mem_toDigits (by decide) (by decide) (h ▸ List.mem_cons_self)

/-- An integer of 64 bits is read up to the end of its digits. -/
theorem readNumber?_write {n : Int} (low : -0x8000000000000000 ≤ n) (high : n < 0x10000000000000000)
    {rest : Text} (hrest : EndsNumber rest) :
    readNumber? ((Number.integer n).write ++ rest) = some (.integer n, rest) := by
  cases n with
  | ofNat n =>
    rw [Int.ofNat_eq_natCast] at high ⊢
    obtain ⟨c, cs, hn, hc⟩ := exists_digit_of_toDigits n
    have hsign : ((Nat.toDigits 10 n ++ rest).head? == some '-') = false := by
      rw [hn]
      refine beq_false_of_ne fun h => ?_
      rw [Option.some.inj h] at hc
      cases hc
    rw [write_natCast]
    exact readNumber?_of_digits n hrest hsign rfl (show n < 0x10000000000000000 by omega)
  | negSucc n =>
    rw [write_negSucc]
    exact readNumber?_of_digits (n + 1) hrest rfl rfl ⟨by omega, by omega⟩

end CommitStyle.Json
