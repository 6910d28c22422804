import CommitStyle.Text.CharTable

/-!
# IPv6 addresses

Eight groups of up to four hexadecimal digits, between colons. An IPv4 address may stand for the
last two groups, and `::` once for one or more groups of zeros.
-/

namespace CommitStyle.Url.Ipv6

/-- Up to four hexadecimal digits. -/
def isGroup (t : Text) : Bool :=
  t ≠ [] && t.length ≤ 4 && t.all isHexDigit

/-- A decimal number up to 255 without leading zeros. -/
def isByte (t : Text) : Bool :=
  t ≠ [] && t.length ≤ 3 && t.all Char.isDigit && (t.length == 1 || t.head? != some '0') &&
    t.foldl (fun n c => 10 * n + (c.toNat - '0'.toNat)) 0 ≤ 255

/-- Four bytes between full stops. -/
def isDotted (t : Text) : Bool :=
  (Text.pieces '.' t).length == 4 && (Text.pieces '.' t).all isByte

/-- The number of groups in a row of them; `dotted` allows an IPv4 address at the end. -/
def groupCount? (dotted : Bool) (t : Text) : Option Nat :=
  if t = [] then some 0
  else
    let groups := Text.pieces ':' t
    if groups.all isGroup then some groups.length
    else if dotted && groups.dropLast.all isGroup && (groups.getLast?.map isDotted).getD false then
      some (groups.length + 1)
    else none

/-- The text between the brackets is an address. -/
def isAddress (t : Text) : Bool :=
  match Text.cut [':', ':'] t with
  | none => groupCount? true t == some 8
  | some (left, right) =>
    match groupCount? false left, groupCount? true right with
    | some m, some n => m + n ≤ 7
    | _, _ => false

end CommitStyle.Url.Ipv6
