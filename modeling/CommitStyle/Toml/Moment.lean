import CommitStyle.Json.Basic
import CommitStyle.Text.Basic

/-!
# Dates and times

A moment is a date, a time of day, or both, and then it may have an offset from universal time. Its
value is an object of one reserved field, which holds the moment in a normal form: date and time
with the letter T between them, a fraction of at most nine digits without zeros at its end, and the
offset zero without a minus.
-/

namespace CommitStyle.Toml

/-- The field that holds a moment. -/
def momentField : String := "$__toml_private_datetime"

/-! ## Parts -/

/-- The number of two digits, if it is from `least` to `most`. -/
def twoDigits? (least most : Nat) (a b : Char) : Option Nat :=
  let n := 10 * (a.toNat - '0'.toNat) + (b.toNat - '0'.toNat)
  if a.isDigit ∧ b.isDigit ∧ least ≤ n ∧ n ≤ most then some n else none

/-- The year has a 29th of February. -/
def isLeapYear (year : Nat) : Bool :=
  (year % 4 == 0 && year % 100 != 0) || year % 400 == 0

/-- The number of days of a month. -/
def daysOf (year month : Nat) : Nat :=
  if month = 2 then (if isLeapYear year then 29 else 28)
  else if month = 4 ∨ month = 6 ∨ month = 9 ∨ month = 11 then 30
  else 31

/-- What follows the date at the start of the text. -/
def afterDate? : Text → Option Text
  | a :: b :: c :: d :: '-' :: m :: n :: '-' :: x :: y :: rest => do
    let century ← twoDigits? 0 99 a b
    let year ← twoDigits? 0 99 c d
    let month ← twoDigits? 1 12 m n
    let _ ← twoDigits? 1 (daysOf (100 * century + year) month) x y
    return rest
  | _ => none

/-- What follows hours, minutes and seconds at the start of the text. The last minute of a day may
have one second more. -/
def afterClock? : Text → Option Text
  | a :: b :: ':' :: c :: d :: ':' :: e :: f :: rest => do
    let _ ← twoDigits? 0 23 a b
    let _ ← twoDigits? 0 59 c d
    let _ ← twoDigits? 0 60 e f
    return rest
  | _ => none

/-! ## Normal forms -/

/-- A fraction of a second at the start of the text in its normal form, and what follows it. -/
def fraction? : Text → Option (Text × Text)
  | '.' :: rest =>
    let digits := rest.takeWhile Char.isDigit
    let kept := Text.dropEndWhile (· == '0') (digits.take 9)
    if digits = [] then none
    else some (if kept = [] then [] else '.' :: kept, rest.dropWhile Char.isDigit)
  | t => some ([], t)

/-- A time of day at the start of the text in its normal form, and what follows it. -/
def time? (t : Text) : Option (Text × Text) := do
  let rest ← afterClock? t
  let (fraction, after) ← fraction? rest
  return (t.take 8 ++ fraction, after)

/-- The offset that the text is, in its normal form. -/
def offset? : Text → Option Text
  | [] => some []
  | ['Z'] | ['z'] => some ['Z']
  | [s, a, b, ':', c, d] => do
    let hours ← twoDigits? 0 23 a b
    let minutes ← twoDigits? 0 59 c d
    if s = '+' ∨ (s = '-' ∧ hours = 0 ∧ minutes = 0) then some ['+', a, b, ':', c, d]
    else if s = '-' then some ['-', a, b, ':', c, d]
    else none
  | _ => none

/-- The moment that the text is, in its normal form. -/
def moment? (t : Text) : Option Text :=
  match afterDate? t with
  | some [] => some t
  | some (delimiter :: rest) =>
    if delimiter = 'T' ∨ delimiter = 't' ∨ delimiter = ' ' then do
      let (time, after) ← time? rest
      let offset ← offset? after
      return t.take 10 ++ 'T' :: time ++ offset
    else none
  | none =>
    match time? t with
    | some (time, []) => some time
    | _ => none

/-- The value of a moment. -/
def momentValue (t : Text) : Json :=
  .object [(momentField, .string (String.ofList t))]

end CommitStyle.Toml
