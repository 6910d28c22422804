import CommitStyle.Text.Basic

/-!
# Tables over characters

A property of characters outside ASCII is a list of runs of code points, a map on characters a
list of runs with a value each. Tables are written in hexadecimal: `c0-d6` is a run, `100-136/2`
every second code point of one, and a map has the value behind each run (`df>73,73`). A map reads
a value in one of two ways: `CharMap.value?` as it stands, `CharMap.image?` as the image of the
first code point of the run, so that a run of letters is sent to a run of letters.
-/

namespace CommitStyle

/-! ## Hexadecimal numbers -/

/-- The value of a hexadecimal digit. -/
def hexDigit? (c : Char) : Option Nat :=
  if '0' ≤ c ∧ c ≤ '9' then some (c.toNat - '0'.toNat)
  else if 'a' ≤ c ∧ c ≤ 'f' then some (c.toNat - 'a'.toNat + 10)
  else if 'A' ≤ c ∧ c ≤ 'F' then some (c.toNat - 'A'.toNat + 10)
  else none

/-- The character is a hexadecimal digit. -/
def isHexDigit (c : Char) : Bool :=
  (hexDigit? c).isSome

/-- The number that the hexadecimal digits write; other characters count as zero. -/
def hexValue (t : Text) : Nat :=
  t.foldl (fun n c => 16 * n + (hexDigit? c).getD 0) 0

/-! ## Runs -/

/-- The code points `first`, `first + stride`, … up to `last`. -/
structure CharRun where
  first : Nat
  last : Nat
  stride : Nat
  deriving Repr, DecidableEq

namespace CharRun

/-- The run has the code point. -/
def contains (r : CharRun) (n : Nat) : Bool :=
  r.first ≤ n && n ≤ r.last && (n - r.first) % r.stride == 0

/-- A written run. -/
def ofText (t : Text) : CharRun :=
  match Text.pieces '/' t with
  | [range, stride] => ofRange range (hexValue stride)
  | _ => ofRange t 1
where
  /-- One code point, or the first and the last of several. -/
  ofRange (t : Text) (stride : Nat) : CharRun :=
    match Text.pieces '-' t with
    | [first, last] => ⟨hexValue first, hexValue last, stride⟩
    | _ => ⟨hexValue t, hexValue t, 1⟩

end CharRun

/-! ## Properties -/

/-- A set of code points as runs. -/
structure CharTable where
  runs : Array CharRun

namespace CharTable

/-- A written table: runs with spaces between them. Line feeds do not count. -/
def ofString (s : String) : CharTable :=
  ⟨((Text.pieces ' ' (s.toList.filter (· ≠ '\n'))).filter (· ≠ [])).map CharRun.ofText |>.toArray⟩

/-- The code point of the character is in the table. -/
def contains (t : CharTable) (c : Char) : Bool :=
  t.runs.any (·.contains c.toNat)

end CharTable

/-! ## Maps -/

/-- A map on code points: runs with a value each. -/
structure CharMap where
  entries : Array (CharRun × List Nat)

namespace CharMap

/-- A written map: runs with their values, with spaces between them. Line feeds do not count. -/
def ofString (s : String) : CharMap :=
  ⟨((Text.pieces ' ' (s.toList.filter (· ≠ '\n'))).filterMap readRun).toArray⟩
where
  /-- A run, the sign `>` and the numbers of the value. -/
  readRun (t : Text) : Option (CharRun × List Nat) :=
    match Text.pieces '>' t with
    | [run, []] => some (CharRun.ofText run, [])
    | [run, value] => some (CharRun.ofText run, (Text.pieces ',' value).map hexValue)
    | _ => none

/-- A map on single code points, each with a value of two numbers behind it. -/
def ofPairs (entries : List (Nat × Nat × Nat)) : CharMap :=
  ⟨(entries.map fun (n, a, b) => (⟨n, n, 1⟩, [a, b])).toArray⟩

/-- The value written for the character. -/
def value? (m : CharMap) (c : Char) : Option (List Nat) :=
  (m.entries.find? fun (run, _) => run.contains c.toNat).map Prod.snd

/-- The image of the character. A run with an image of one code point is moved as a whole. -/
def image? (m : CharMap) (c : Char) : Option Text :=
  (m.entries.find? fun (run, _) => run.contains c.toNat).map fun
    | (run, [start]) => [Char.ofNat (start + (c.toNat - run.first))]
    | (_, image) => image.map Char.ofNat

end CharMap
end CommitStyle
