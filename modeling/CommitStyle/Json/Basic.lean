import CommitStyle.Table

/-!
# JSON values

A number is an integer of 64 bits, with or without a sign, or it is `real` and kept as it was
written. The fields of an object are in the order of their names.
-/

namespace CommitStyle

/-- A number of a JSON text. -/
inductive Json.Number where
  /-- An integer from -2^63 to 2^64 - 1. -/
  | integer (value : Int)
  /-- Any other number. -/
  | real (written : List Char)
  deriving Repr, DecidableEq

/-- A JSON value. -/
inductive Json where
  | null
  | bool (value : Bool)
  | number (value : Json.Number)
  | string (value : String)
  | array (items : List Json)
  | object (fields : List (String × Json))
  deriving Repr

namespace Json

/-- The object with these fields, in the order of their names. -/
def ofFields (fields : List (String × Json)) : Json :=
  .object (Table.ofList fields).entries

/-- The number of a count. -/
def ofNat (n : Nat) : Json :=
  .number (.integer n)

/-- The field of an object. -/
def field? (key : String) : Json → Option Json
  | .object fields => fields.lookup key
  | _ => none

/-- The name of the kind of a value. -/
def kind : Json → String
  | .null => "null"
  | .bool _ => "boolean"
  | .number _ => "number"
  | .string _ => "string"
  | .array _ => "array"
  | .object _ => "object"

end Json
end CommitStyle
