import CommitStyle.Config.Basic
import CommitStyle.Report.Basic
import CommitStyle.Rule.Check

/-!
# The linter

`Config.evaluate` applies one rule as the configuration wants it, `Config.lint` all rules that are
not disabled. A rule that is never to apply has its verdict turned round. The order of the issues is
the order of the rules.
-/

namespace CommitStyle.Config

/-- The verdict of the rule on the message. Its severity plays no part. -/
def evaluate (c : Config) (r : Rule) (m : Message) : Except Misuse Verdict :=
  (r.check c.options m).map fun v =>
    match c.applicability r with
    | .always => v
    | .never => v.inverted

/-- The issue of the rule, if it is not disabled and fails. -/
def issue? (c : Config) (m : Message) (r : Rule) : Except Misuse (Option Issue) :=
  if c.severity r = .disabled then .ok none
  else (c.evaluate r m).map fun v =>
    if v.passed then none else some ⟨r, v.message, c.severity r⟩

/-- The report on the message. -/
def lint (c : Config) (m : Message) : Except Misuse Report :=
  (Rule.all.mapM (c.issue? m)).map fun issues => .ofIssues m.header (issues.filterMap id)

end CommitStyle.Config
