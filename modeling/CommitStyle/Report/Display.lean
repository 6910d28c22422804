import CommitStyle.Json.Writer
import CommitStyle.Report.Basic
import CommitStyle.Report.Styled
import CommitStyle.Text.Line

/-!
# Displaying a report

A report is displayed as styled lines, the header first and then the issues, or as indented JSON.
The commit is cut to its first seven bytes, and a commit that cannot be cut there is refused.
-/

namespace CommitStyle

/-- The two ways to display a report. -/
inductive OutputFormat where
  | text | json
  deriving DecidableEq, Repr

/-- The sign and the colour of an issue. -/
def Issue.mark (i : Issue) : Char × Style :=
  if i.isError then ('✗', .red) else ('⚠', .yellow)

/-- A row of a message after the first, on a line of its own. -/
def rowDisplay (row : Text) : Styled :=
  Styled.ofString "\n  " ++ Styled.inStyle [.dim] ['→'] ++ Styled.ofString " " ++
    Styled.inStyle [.dim] row

/-- The issue with its rule and its message. -/
def Issue.display (i : Issue) : Styled :=
  let rows := Text.rows i.message.toList
  Styled.inStyle [i.mark.2, .bold] [i.mark.1] ++ Styled.ofString " " ++
    Styled.inStyle [i.mark.2] i.rule.name.toList ++ Styled.ofString " " ++
    Styled.plainly (rows.headD []) ++ rows.tail.flatMap rowDisplay

namespace Report

/-- The bytes of a commit that are shown. -/
def shortCommitBytes : Nat := 7

/-- The first bytes of the commit. -/
def shortCommit (commit : Text) : Except Misuse Text :=
  let short := Text.takeBytes shortCommitBytes commit
  if Text.byteLength short < min shortCommitBytes (Text.byteLength commit) then
    .error (.splitCharacter shortCommitBytes commit)
  else .ok short

/-- The sign of the report. -/
def mark (r : Report) : Styled :=
  if r.isValid then Styled.inStyle [.green, .bold] ['✓'] else Styled.inStyle [.red, .bold] ['✗']

/-- The commit in front of the header, if it is known. -/
def commitDisplay : Option Text → Except Misuse Styled
  | none => .ok []
  | some commit =>
    (shortCommit commit).map fun short => Styled.inStyle [.cyan] short ++ Styled.ofString " "

/-- The line of the header. -/
def headerLine (r : Report) : Except Misuse Styled :=
  (commitDisplay r.commit).map fun commit =>
    r.mark ++ Styled.ofString " " ++ commit ++ Styled.plainly r.header ++ Styled.ofString "\n"

/-- The line of an issue, with the rows below it. -/
def issueLine (i : Issue) : Styled :=
  Styled.ofString "  " ++ i.display ++ Styled.ofString "\n"

/-- The report as lines. -/
def displayText (r : Report) : Except Misuse Styled :=
  r.headerLine.map (· ++ r.issues.flatMap issueLine)

/-- The report as JSON. -/
def displayJson (r : Report) : Styled :=
  Styled.plainly (r.toJson.pretty ++ ['\n'])

/-- The report in the format, as lines if none is given. -/
def display (r : Report) : Option OutputFormat → Except Misuse Styled
  | some .json => .ok r.displayJson
  | _ => r.displayText

end Report
end CommitStyle
