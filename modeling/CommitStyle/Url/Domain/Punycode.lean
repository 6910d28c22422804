import CommitStyle.Text.Basic

/-!
# Punycode

A label outside ASCII is written in ASCII: its ASCII characters, a hyphen, and the other
characters as insertions in the order of their code points. Each insertion is a number of variable
length in base 36 whose digits have thresholds that adapt to the numbers before. `decode?` reads
this form.
-/

namespace CommitStyle.Url.Punycode

/-- The value of a digit in base 36. -/
def digit? (c : Char) : Option Nat :=
  if 'a' ≤ c ∧ c ≤ 'z' then some (c.toNat - 'a'.toNat)
  else if 'A' ≤ c ∧ c ≤ 'Z' then some (c.toNat - 'A'.toNat)
  else if '0' ≤ c ∧ c ≤ '9' then some (c.toNat - '0'.toNat + 26)
  else none

/-- The threshold of the digit with weight position `k`. -/
def threshold (k bias : Nat) : Nat :=
  if k ≤ bias then 1 else min 26 (k - bias)

/-- Divides `delta` by 35 until it is at most 455; each division counts 36. -/
def settle (delta k : Nat) : Nat × Nat :=
  if 455 < delta then settle (delta / 35) (k + 36) else (delta, k)
termination_by delta
decreasing_by omega

/-- The bias after an insertion by `delta` into a text that now has `size` characters. -/
def adapt (delta size : Nat) (first : Bool) : Nat :=
  let delta := if first then delta / 700 else delta / 2
  let (delta, k) := settle (delta + delta / size) 0
  k + 36 * delta / (delta + 38)

/-- A number of variable length, added to `i`, and the rest of the digits. -/
def readDelta (bias : Nat) : Text → (k weight i : Nat) → Option (Nat × Text)
  | [], _, _, _ => none
  | c :: rest, k, weight, i =>
    match digit? c with
    | none => none
    | some d =>
      if d < threshold k bias then some (i + d * weight, rest)
      else readDelta bias rest (k + 36) (weight * (36 - threshold k bias)) (i + d * weight)

theorem length_lt_of_readDelta {bias k weight i : Nat} {t : Text} {r : Nat × Text}
    (h : readDelta bias t k weight i = some r) : r.2.length < t.length := by
  fun_induction readDelta bias t k weight i with
  | case1 => simp at h
  | case2 => simp at h
  | case3 =>
    obtain rfl := Option.some.inj h
    simp
  | case4 _ _ _ _ _ _ _ _ ih =>
    have := ih h
    simp only [List.length_cons]
    omega

/-- The text with the insertions that the digits write; `i` and `n` are the place and the code
point reached so far. -/
def insertAll (bias n i : Nat) (out : Text) : Text → Option Text
  | [] => some out
  | c :: rest =>
    match _h : readDelta bias (c :: rest) 36 1 i with
    | none => none
    | some (i', rest') =>
      let size := out.length + 1
      let n' := n + i' / size
      if n'.isValidChar then
        insertAll (adapt (i' - i) size (i == 0)) n' (i' % size + 1)
          (out.insertIdx (i' % size) (Char.ofNat n')) rest'
      else none
termination_by t => t.length
decreasing_by exact length_lt_of_readDelta _h

/-- The label that the text writes. Characters before its last hyphen stand for themselves; a
hyphen with nothing before it is a digit, and no valid one. -/
def decode? (t : Text) : Option Text :=
  let digits := (t.reverse.takeWhile (· ≠ '-')).reverse
  let plain := (t.take (t.length - digits.length)).dropLast
  if plain.all (·.toNat < 0x80) then
    insertAll 72 128 0 plain (if plain = [] then t else digits)
  else none

end CommitStyle.Url.Punycode
