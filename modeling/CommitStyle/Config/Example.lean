/-!
# The example configuration

What a new configuration file holds: the settings that most users change, with their defaults and a
comment on each group.
-/

namespace CommitStyle.Config

/-- The lines of the example. -/
def sampleLines : List String := [
  "# cmlint configuration file",
  "",
  "# Repository the commits belong to, as \"owner/name\". Used to spot full",
  "# commit URLs that should be plain hashes. Falls back to GITHUB_REPOSITORY.",
  "# repository = \"owner/name\"",
  "",
  "# Length limits, in characters",
  "[limits]",
  "header_max_length = 50",
  "body_soft_max_line_length = 64",
  "footer_max_line_length = 150",
  "",
  "# Per-rule overrides. Severity is disabled | warning | error (or 0 | 1 | 2).",
  "# applicability = \"never\" inverts the rule.",
  "[rules.body-prose]",
  "severity = \"error\"",
  "applicability = \"always\"",
  "",
  "[rules.type-empty]",
  "severity = \"warning\"",
  "",
  "[rules.footer-max-line-length]",
  "max_length = 150",
  "",
  "# Extra title abbreviations, suggested when the title is too long",
  "[abbreviations]",
  "\"miscellaneous\" = \"misc\"",
  "",
  "# UI configuration",
  "[ui]",
  "color = true"]

/-- The example of a configuration file. -/
def sample : String :=
  String.join (sampleLines.map (· ++ "\n"))

end CommitStyle.Config
