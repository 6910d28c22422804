import CommitStyle.Text.Line

/-!
# Fenced code

Code in a commit message stands between fences of three backticks. The rules look at it in two
ways. `Text.withoutCode` takes out all that stands from the first fence to the last one, wherever
in a line they are. `outsideFences` goes by lines: a line that starts with a fence opens or closes
a block, and neither it nor a line inside a block is kept.
-/

namespace CommitStyle

/-- Three backticks. -/
def fence : Text := ['\x60', '\x60', '\x60']

/-- The text without everything from its first fence to its last. A text with a single fence has no
code in it. -/
def Text.withoutCode (t : Text) : Text :=
  match Text.cut fence t with
  | none => t
  | some (before, rest) =>
    match Text.afterLast fence rest with
    | none => t
    | some after => before ++ after

/-- The line starts with a fence. -/
def Line.isFence (l : Line) : Bool :=
  fence.isPrefixOf l.text

/-- The lines outside fenced blocks, where `inside` tells whether the first line is in one. -/
def outsideFencesFrom (inside : Bool) : List Line → List Line
  | [] => []
  | l :: rest =>
    if l.isFence then outsideFencesFrom (!inside) rest
    else if inside then outsideFencesFrom inside rest
    else l :: outsideFencesFrom inside rest

/-- The lines outside fenced blocks. A block that is not closed reaches to the end. -/
def outsideFences (ls : List Line) : List Line :=
  outsideFencesFrom false ls

end CommitStyle
