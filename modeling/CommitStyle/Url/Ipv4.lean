import CommitStyle.Text.CharTable

/-!
# IPv4 addresses

A domain whose last label reads as a number is an IPv4 address: up to four decimal, octal (`0…`)
or hexadecimal (`0x…`) numbers, the last of which fills the bytes that the others leave.
-/

namespace CommitStyle.Url.Ipv4

/-- The number that the label writes. -/
def number? (label : Text) : Option Nat :=
  match label with
  | [] => none
  | '0' :: 'x' :: digits => hexadecimal? digits
  | '0' :: 'X' :: digits => hexadecimal? digits
  | '0' :: d :: digits =>
    if (d :: digits).all fun c => '0' ≤ c && c ≤ '7' then
      some ((d :: digits).foldl (fun n c => 8 * n + (c.toNat - '0'.toNat)) 0)
    else none
  | digits =>
    if digits.all Char.isDigit then
      some (digits.foldl (fun n c => 10 * n + (c.toNat - '0'.toNat)) 0)
    else none
where
  /-- No digits at all write zero. -/
  hexadecimal? (digits : Text) : Option Nat :=
    if digits.all isHexDigit then some (hexValue digits) else none

/-- The labels without an empty one at the end. -/
def significant (labels : List Text) : List Text :=
  if labels.getLast? = some [] then labels.dropLast else labels

/-- The last label, or the one before an empty last label, reads as a number. -/
def endsInNumber (labels : List Text) : Bool :=
  match (significant labels).getLast? with
  | some (c :: rest) => (c :: rest).all Char.isDigit || (number? (c :: rest)).isSome
  | _ => false

/-- The labels are the numbers of an address. -/
def isAddress (labels : List Text) : Bool :=
  match (significant labels).mapM number? with
  | none => false
  | some numbers =>
    numbers.length ≤ 4 && numbers.dropLast.all (· ≤ 255) &&
      match numbers.getLast? with
      | none => false
      | some last => last < Nat.pow 256 (5 - numbers.length)

end CommitStyle.Url.Ipv4
