import CommitStyle.Json.Basic

/-!
# Tables in the making

A table is opened once: by its header, by a header below it, or by a path of keys in front of a
value. The node of a table remembers which, since only a table that was opened on the way to
another one may still get a header of its own, and only paths of keys may add to a table that such a
path has opened. A list of tables grows by headers in double brackets, and a path leads into its
last table.
-/

namespace CommitStyle.Toml

/-- How a table was opened. -/
inductive Opening where
  /-- By its own header. -/
  | header
  /-- By the header of a table below it. -/
  | passing
  /-- By keys with dots between them. -/
  | dotted
  deriving DecidableEq, Repr

/-- A value, or a table that may still grow. -/
inductive Node where
  | value (j : Json)
  | table (opening : Opening) (fields : List (String × Node))
  | tables (items : List (List (String × Node)))

/-- The entries of a table. -/
abbrev Fields := List (String × Node)

namespace Fields

/-- The entries with this one in the place of the one with its key. -/
def put (key : String) (n : Node) (fs : Fields) : Fields :=
  fs.filter (·.1 ≠ key) ++ [(key, n)]

/-! ## Headers -/

/-- The entries after `f` on the table at the end of a path of headers. -/
def below (f : Fields → Option Fields) : (path : List String) → Fields → Option Fields
  | [], fs => f fs
  | key :: path, fs =>
    match fs.lookup key with
    | none => (below f path []).map fun gs => fs.put key (.table .passing gs)
    | some (.table opening gs) =>
      (below f path gs).map fun gs => fs.put key (.table opening gs)
    | some (.tables items) =>
      match items.getLast? with
      | some gs => (below f path gs).map fun gs => fs.put key (.tables (items.dropLast ++ [gs]))
      | none => none
    | some (.value _) => none

/-- The entries with a table that has a header. -/
def openTable (key : String) (fs : Fields) : Option Fields :=
  match fs.lookup key with
  | none => some (fs.put key (.table .header []))
  | some (.table .passing gs) => some (fs.put key (.table .header gs))
  | _ => none

/-- The entries with one table more in a list of tables. -/
def openItem (key : String) (fs : Fields) : Option Fields :=
  match fs.lookup key with
  | none => some (fs.put key (.tables [[]]))
  | some (.tables items) => some (fs.put key (.tables (items ++ [[]])))
  | _ => none

/-! ## Assignments -/

/-- The entries with a value at the end of a path of keys. -/
def assign (j : Json) : (path : List String) → Fields → Option Fields
  | [], _ => none
  | [key], fs => if (fs.lookup key).isSome then none else some (fs.put key (.value j))
  | key :: path, fs =>
    match fs.lookup key with
    | none => (assign j path []).map fun gs => fs.put key (.table .dotted gs)
    | some (.table .dotted gs) => (assign j path gs).map fun gs => fs.put key (.table .dotted gs)
    | some (.table .passing gs) =>
      if path.length = 1 then none
      else (assign j path gs).map fun gs => fs.put key (.table .passing gs)
    | some (.tables items) =>
      match items.getLast? with
      | some gs =>
        if path.length = 1 then none
        else (assign j path gs).map fun gs => fs.put key (.tables (items.dropLast ++ [gs]))
      | none => none
    | some (.table .header _) | some (.value _) => none

end Fields

/-! ## Finished tables -/

mutual

/-- The value of a node. -/
def Node.toJson : Node → Json
  | .value j => j
  | .table _ fields => Json.ofFields (valuesOf fields)
  | .tables items => .array (objectsOf items)

/-- The values of the entries. -/
def valuesOf : List (String × Node) → List (String × Json)
  | [] => []
  | (key, n) :: rest => (key, n.toJson) :: valuesOf rest

/-- The tables as objects. -/
def objectsOf : List (List (String × Node)) → List Json
  | [] => []
  | fields :: rest => Json.ofFields (valuesOf fields) :: objectsOf rest

end

/-- The object of a table. -/
def Fields.toJson (fs : Fields) : Json :=
  Json.ofFields (valuesOf fs)

end CommitStyle.Toml
