import CommitStyle.Text.Line

/-!
# Comments in a commit message

An editor shows a message with comments: lines that begin with a number sign, and everything below
the scissors line, which stands above the changes. None of it becomes part of the commit.
-/

namespace CommitStyle.Text

/-- The line above the changes. -/
def scissors : Text :=
  "# ------------------------ >8 ------------------------".toList

/-- The rows of the text that are part of the commit. -/
def withoutComments (t : Text) : Text :=
  joinRows ((t.rows.takeWhile (· ≠ scissors)).filter fun row => row.head? ≠ some '#')

end CommitStyle.Text
