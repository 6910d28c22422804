import CommitStyle.Text.Basic

/-!
# Paths

A path as a user writes it is a string. A `Path` is a place in the tree of files: the names on the
way to it from the root. `Path.names` cuts a written path into the names that it goes through.
-/

namespace CommitStyle

/-- The names on the way from the root. -/
abbrev Path := List String

namespace Path

/-- The path is written from the root on. -/
def isRooted (written : String) : Bool :=
  written.toList.head? == some '/'

/-- What stands between the slashes of a written path. -/
def names (written : String) : List String :=
  (Text.pieces '/' written.toList).map String.ofList

/-- The place of a written path from the root, which does not go back. -/
def ofRooted (written : String) : Path :=
  (names written).filter fun name => name ≠ "" && name ≠ "."

/-- The path as it is written from the root on. -/
def written (p : Path) : String :=
  String.ofList (p.flatMap fun name => '/' :: name.toList)

/-- The path and the directories above it, up to the root. -/
def ancestors (p : Path) : List Path :=
  (List.range (p.length + 1)).reverse.map p.take

end Path
end CommitStyle
