import CommitStyle.Json.Reader

/-!
# Numbers

An integer has 64 bits with a sign. It is written in decimal digits without leading zeros, or
without a sign in hexadecimal, octal or binary digits. Any other number is real. An underscore may
stand between two digits. A real number above the range of doubles is refused.
-/

namespace CommitStyle.Toml

/-! ## Digits -/

/-- The digits without the underscores between them; every character is a digit for `isDigit`. -/
def digits? (isDigit : Char → Bool) (t : Text) : Option Text :=
  let groups := Text.pieces '_' t
  if groups.all fun g => !g.isEmpty && g.all isDigit then some groups.flatten else none

/-- Decimal digits without a leading zero. -/
def whole? (t : Text) : Option Text :=
  (digits? Char.isDigit t).filter fun ds => ds.length = 1 || ds.head? ≠ some '0'

/-- The sign and the text behind it. -/
def sign : Text → Bool × Text
  | '-' :: rest => (true, rest)
  | '+' :: rest => (false, rest)
  | t => (false, t)

/-! ## Integers -/

/-- An integer in the range of 64 bits with a sign. -/
def int64? (n : Int) : Option Int :=
  if -0x8000000000000000 ≤ n ∧ n < 0x8000000000000000 then some n else none

/-- A digit below eight. -/
def isOctalDigit (c : Char) : Bool :=
  '0' ≤ c && c ≤ '7'

/-- A digit below two. -/
def isBinaryDigit (c : Char) : Bool :=
  c == '0' || c == '1'

/-- The number that digits write in a base of at most sixteen. -/
def valueIn (base : Nat) (t : Text) : Nat :=
  t.foldl (fun n c => base * n + (hexDigit? c).getD 0) 0

/-- An integer. -/
def integer? : Text → Option Int
  | '0' :: 'x' :: rest => (digits? isHexDigit rest).bind fun ds => int64? (valueIn 16 ds)
  | '0' :: 'o' :: rest => (digits? isOctalDigit rest).bind fun ds => int64? (valueIn 8 ds)
  | '0' :: 'b' :: rest => (digits? isBinaryDigit rest).bind fun ds => int64? (valueIn 2 ds)
  | t =>
    let (negative, rest) := sign t
    (whole? rest).bind fun ds => int64? (if negative then -valueIn 10 ds else valueIn 10 ds)

/-! ## Real numbers -/

/-- The parts before and behind the first character for which `p` holds. -/
def splitAt? (p : Char → Bool) (t : Text) : Option (Text × Text) :=
  match t.dropWhile fun c => !p c with
  | [] => none
  | _ :: after => some (t.takeWhile fun c => !p c, after)

/-- A real number as it is written without underscores. -/
def real? (t : Text) : Option Text :=
  let (negative, magnitude) := sign t
  if magnitude = ['i', 'n', 'f'] ∨ magnitude = ['n', 'a', 'n'] then some t
  else do
    let scaled := splitAt? (fun c => c == 'e' || c == 'E') magnitude
    let mantissa := (scaled.map Prod.fst).getD magnitude
    let broken := splitAt? (· == '.') mantissa
    if scaled.isNone && broken.isNone then none
    let whole ← whole? ((broken.map Prod.fst).getD mantissa)
    let fraction ← match broken with
      | some (_, ds) => digits? Char.isDigit ds
      | none => some []
    let (shrinks, power) ← match scaled with
      | some (_, e) => (digits? Char.isDigit (sign e).2).map ((sign e).1, ·)
      | none => some (false, ['0'])
    let exponent : Int := if shrinks then -valueIn 10 power else valueIn 10 power
    let digits := valueIn 10 (whole ++ fraction)
    if negative || Json.inRealRange digits (exponent - fraction.length) then
      some (t.filter (· ≠ '_'))
    else none

end CommitStyle.Toml
