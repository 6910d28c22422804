import CommitStyle.Json.Basic
import CommitStyle.Proofs.Table

/-!
# Objects

The fields of an object come from a table, so of the fields that it is made from the last one with a
name counts, and fields that ascend already are its fields as they are. `Json.Plain` is the shape of
what the linter writes : its numbers are integers of 64 bits, the names in an object ascend, and
arrays and objects nest no deeper than a given depth.
-/

namespace CommitStyle.Json

theorem field?_ofFields (fields : List (String × Json)) (key : String) :
    (ofFields fields).field? key = fields.reverse.lookup key :=
  Table.find?_ofList fields key

theorem ofFields_of_ascending {fields : List (String × Json)}
    (h : fields.Pairwise fun a b => a.1 < b.1) : ofFields fields = .object fields :=
  congrArg (fun t : Table Json => Json.object t.entries) (Table.ofList_entries ⟨fields, h⟩)

/-- A value whose arrays and objects nest at most `depth` deep, with integers of 64 bits for numbers
and with the fields of objects in the order of their names. -/
inductive Plain : (depth : Nat) → Json → Prop
  | null (depth : Nat) : Plain depth .null
  | bool (depth : Nat) (b : Bool) : Plain depth (.bool b)
  | number (depth : Nat) {n : Int} (low : -0x8000000000000000 ≤ n)
    (high : n < 0x10000000000000000) : Plain depth (.number (.integer n))
  | string (depth : Nat) (s : String) : Plain depth (.string s)
  | array {depth : Nat} {items : List Json} (each : ∀ item ∈ items, Plain depth item) :
    Plain (depth + 1) (.array items)
  | object {depth : Nat} {fields : List (String × Json)}
    (ascending : fields.Pairwise fun a b => a.1 < b.1)
    (each : ∀ field ∈ fields, Plain depth field.2) : Plain (depth + 1) (.object fields)

namespace Plain

variable {depth : Nat}

theorem ofNat (depth : Nat) (n : UInt64) : Plain depth (.ofNat n.toNat) := by
  have := n.toNat_lt
  exact .number depth (by omega) (by omega)

theorem ofFields {fields : List (String × Json)} (each : ∀ field ∈ fields, Plain depth field.2) :
    Plain (depth + 1) (.ofFields fields) :=
  .object (Table.ofList fields).ascending fun _ h => each _ (Table.mem_of_mem_ofList h)

/-- The object of a table whose values are written by `write`. -/
theorem ofTable {α : Type} {write : α → Json} (hwrite : ∀ v, Plain depth (write v)) (t : Table α) :
    Plain (depth + 1) (.object (t.map write).entries) := by
  refine .object (t.map write).ascending fun field hfield => ?_
  obtain ⟨e, -, rfl⟩ := List.mem_map.1 hfield
  exact hwrite e.2

end Plain
end CommitStyle.Json
