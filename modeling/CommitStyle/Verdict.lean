/-!
# Verdicts

The outcome of one rule on one message. The diagnostic stays with the verdict whether the rule
passed or not, so that a rule can be turned round; a failing verdict shows it with the guidelines
appended (`Verdict.message`).
-/

namespace CommitStyle

/-- The outcome of a rule with its diagnostic. -/
structure Verdict where
  passed : Bool
  text : String
  deriving Repr, DecidableEq

namespace Verdict

/-- What every failing verdict says after its diagnostic. -/
def guidelines : String :=
  "\nFor reference, here's the guidelines: " ++
  "https://github.com/eshanized/cmlint/blob/main/docs/WorkflowGuidelines.md\n" ++
  "If you think the linter is wrong, please report it at " ++
  "https://github.com/eshanized/cmlint/issues " ++
  "(a single commit can skip the hook with `git commit --no-verify`)."

/-- The verdict of a rule that looked for an offence. -/
def ofOffence (offence : Bool) (text : String) : Verdict :=
  ⟨!offence, text⟩

/-- The diagnostic, with the guidelines if the rule failed. -/
def message (v : Verdict) : String :=
  if v.passed then v.text else v.text ++ guidelines

/-- The opposite outcome with the same diagnostic. -/
def inverted (v : Verdict) : Verdict :=
  ⟨!v.passed, v.text⟩

@[simp] theorem inverted_inverted (v : Verdict) : v.inverted.inverted = v := by
  simp [inverted]

end Verdict
end CommitStyle
