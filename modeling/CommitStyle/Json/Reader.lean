import CommitStyle.Json.Basic
import CommitStyle.Text.CharTable

/-!
# Reading JSON

`Json.read?` reads a text that is one JSON value. A number with a fraction or an exponent, or
beyond 64 bits, is real and must lie in the range of binary floating point of double precision.
Arrays and objects nest at most `maxDepth` deep, and the last of several fields with one name
counts.
-/

namespace CommitStyle.Json

/-- The depth to which arrays and objects nest. -/
def maxDepth : Nat := 127

/-- The text without the white space at its start. -/
def skipSpace (t : Text) : Text :=
  t.dropWhile fun c => c == ' ' || c == '\n' || c == '\t' || c == '\r'

/-! ## Strings -/

/-- The number that four hexadecimal digits write. -/
def unit? (a b c d : Char) : Option Nat :=
  match hexDigit? a, hexDigit? b, hexDigit? c, hexDigit? d with
  | some a, some b, some c, some d => some (((a * 16 + b) * 16 + c) * 16 + d)
  | _, _, _, _ => none

/-- The character of a pair of surrogates. -/
def pair? (high low : Nat) : Option Char :=
  if 0xd800 ≤ high ∧ high < 0xdc00 ∧ 0xdc00 ≤ low ∧ low < 0xe000 then
    some (Char.ofNat (0x10000 + (high - 0xd800) * 0x400 + (low - 0xdc00)))
  else none

/-- The character that the sign behind a backslash stands for. -/
def unescape? : Char → Option Char
  | '\x22' => some '\x22'
  | '\\' => some '\\'
  | '/' => some '/'
  | 'b' => some '\x08'
  | 'f' => some '\x0c'
  | 'n' => some '\n'
  | 'r' => some '\r'
  | 't' => some '\t'
  | _ => none

/-- The characters up to the closing quote, and what follows it. -/
def readString? : Text → Option (Text × Text)
  | [] => none
  | '\x22' :: rest => some ([], rest)
  | '\\' :: 'u' :: a :: b :: c :: d :: '\\' :: 'u' :: e :: f :: g :: h :: rest =>
    match (unit? a b c d).bind fun high => (unit? e f g h).bind (pair? high) with
    | some x => (readString? rest).map fun (s, after) => (x :: s, after)
    | none =>
      match (unit? a b c d).filter Nat.isValidChar with
      | some n => (readString? ('\\' :: 'u' :: e :: f :: g :: h :: rest)).map fun (s, after) =>
        (Char.ofNat n :: s, after)
      | none => none
  | '\\' :: 'u' :: a :: b :: c :: d :: rest =>
    match (unit? a b c d).filter Nat.isValidChar with
    | some n => (readString? rest).map fun (s, after) => (Char.ofNat n :: s, after)
    | none => none
  | '\\' :: c :: rest =>
    match unescape? c with
    | some x => (readString? rest).map fun (s, after) => (x :: s, after)
    | none => none
  | c :: rest =>
    if c.toNat < 0x20 || c == '\\' then none
    else (readString? rest).map fun (s, after) => (c :: s, after)

/-! ## Numbers -/

/-- The value of decimal digits. -/
def decimalValue (t : Text) : Nat :=
  t.foldl (fun n c => 10 * n + (c.toNat - '0'.toNat)) 0

/-- The first power of two that is too large for a double, less half a unit. -/
def realLimit : Nat := Nat.pow 2 1024 - Nat.pow 2 970

/-- The number `digits · 10 ^ exponent` is in the range of doubles. -/
def inRealRange (digits : Nat) (exponent : Int) : Bool :=
  if digits = 0 then true
  else if exponent > 400 then false
  else if exponent ≥ 0 then digits * Nat.pow 10 exponent.toNat < realLimit
  else if (-exponent).toNat > 100000 then true
  else digits < realLimit * Nat.pow 10 (-exponent).toNat

/-- A number at the start of the text, and what follows it. -/
def readNumber? (t : Text) : Option (Number × Text) :=
  let negative := t.head? == some '-'
  let t₀ := if negative then t.tail else t
  let whole := t₀.takeWhile Char.isDigit
  let t₁ := t₀.dropWhile Char.isDigit
  let hasFraction := t₁.head? == some '.'
  let fraction := if hasFraction then t₁.tail.takeWhile Char.isDigit else []
  let t₂ := if hasFraction then t₁.tail.dropWhile Char.isDigit else t₁
  let hasExponent := t₂.head? == some 'e' || t₂.head? == some 'E'
  let sign := if hasExponent then t₂.tail.head?.filter fun c => c == '+' || c == '-' else none
  let t₃ := if hasExponent then (if sign.isSome then t₂.tail.tail else t₂.tail) else t₂
  let power := if hasExponent then t₃.takeWhile Char.isDigit else []
  let after := if hasExponent then t₃.dropWhile Char.isDigit else t₃
  if whole = [] ∨ (whole.head? = some '0' ∧ whole ≠ ['0']) ∨ (hasFraction ∧ fraction = []) ∨
      (hasExponent ∧ power = []) then none
  else
    let n := decimalValue whole
    if !hasFraction && !hasExponent && !negative && n < 0x10000000000000000 then
      some (.integer n, after)
    else if !hasFraction && !hasExponent && negative && 0 < n &&
        n ≤ 0x8000000000000000 then
      some (.integer (-n), after)
    else
      let exponent : Int := if sign == some '-' then -decimalValue power else decimalValue power
      if inRealRange (decimalValue (whole ++ fraction)) (exponent - fraction.length) then
        some (.real (t.take (t.length - after.length)), after)
      else none

/-! ## Values -/

mutual

/-- The value at the start of the text, and what follows it. Every step takes a character at least,
so the length of the text is enough fuel. -/
def readValue? : (fuel depth : Nat) → Text → Option (Json × Text)
  | 0, _, _ => none
  | fuel + 1, depth, t =>
    match skipSpace t with
    | 'n' :: 'u' :: 'l' :: 'l' :: rest => some (.null, rest)
    | 't' :: 'r' :: 'u' :: 'e' :: rest => some (.bool true, rest)
    | 'f' :: 'a' :: 'l' :: 's' :: 'e' :: rest => some (.bool false, rest)
    | '\x22' :: rest => (readString? rest).map fun (s, after) => (.string (String.ofList s), after)
    | '[' :: rest =>
      if depth = 0 then none
      else match skipSpace rest with
        | ']' :: after => some (.array [], after)
        | rest => (readItems? fuel (depth - 1) rest).map fun (items, after) => (.array items, after)
    | '\x7b' :: rest =>
      if depth = 0 then none
      else match skipSpace rest with
        | '\x7d' :: after => some (.object [], after)
        | rest =>
          (readFields? fuel (depth - 1) rest).map fun (fields, after) => (ofFields fields, after)
    | rest => (readNumber? rest).map fun (n, after) => (.number n, after)

/-- The items up to the closing bracket, and what follows it. -/
def readItems? : (fuel depth : Nat) → Text → Option (List Json × Text)
  | 0, _, _ => none
  | fuel + 1, depth, t =>
    (readValue? fuel depth t).bind fun (item, rest) =>
      match skipSpace rest with
      | ',' :: rest =>
        (readItems? fuel depth rest).map fun (items, after) => (item :: items, after)
      | ']' :: after => some ([item], after)
      | _ => none

/-- The fields up to the closing brace, and what follows it. -/
def readFields? : (fuel depth : Nat) → Text → Option (List (String × Json) × Text)
  | 0, _, _ => none
  | fuel + 1, depth, t =>
    match skipSpace t with
    | '\x22' :: rest =>
      (readString? rest).bind fun (name, rest) =>
        match skipSpace rest with
        | ':' :: rest =>
          (readValue? fuel depth rest).bind fun (value, rest) =>
            let field := (String.ofList name, value)
            match skipSpace rest with
            | ',' :: rest =>
              (readFields? fuel depth rest).map fun (fields, after) => (field :: fields, after)
            | '\x7d' :: after => some ([field], after)
            | _ => none
        | _ => none
    | _ => none

end

/-- The value that the text is. -/
def read? (t : Text) : Option Json :=
  match readValue? (2 * t.length + 2) maxDepth t with
  | some (j, rest) => if skipSpace rest = [] then some j else none
  | none => none

end CommitStyle.Json
