import CommitStyle.Text.Line

/-!
# Errors

A breach of style is no error: it is a failing verdict. Errors are what keeps the linter from its
work: a bad configuration, a missing repository, malformed input, the operating system, and, at the
end of a run, the fact that some message failed. `Error.message` is the text shown for each.
-/

namespace CommitStyle

/-- What is wrong with a configuration. -/
inductive ConfigError where
  | notFound (path : String)
  /-- The text is no settings document, or its settings have the wrong form. -/
  | unreadable (reason : String)
  | unknownRule (name : String)
  | invalidValue (key reason : String)
  | alreadyExists (path : String)
  deriving Repr, DecidableEq

/-- What is wrong with the repository. -/
inductive GitError where
  | notARepository
  | openFailed (reason : String)
  | invalidReference (reference : String)
  | commandFailed (command reason : String)
  deriving Repr, DecidableEq

/-- What is wrong with a message that is handed over for linting. -/
inductive InputError where
  /-- The field should be a string and is of the kind `found`. -/
  | expectedString (field found : String)
  | expectedObject
  | multiLineHeader (header : Text)
  | emptyMessage
  deriving Repr, DecidableEq

/-- What ends a run without success. -/
inductive Error where
  | config (e : ConfigError)
  | git (e : GitError)
  | input (e : InputError)
  /-- The messages failed, with this many errors and warnings. -/
  | failed (errors warnings : Nat)
  | io (reason : String)
  /-- Any error, reduced to its text, with the task that it interrupted. -/
  | context (task reason : String)
  deriving Repr, DecidableEq

/-! ## Texts -/

/-- The bytes of a text that the message of a misuse shows. -/
def maxShownBytes : Nat := 256

/-- The text of a broken promise. -/
def Misuse.message : Misuse → String
  | .lineBreak text =>
    "expected a single line, got text with a line break: " ++ String.ofList text.quoted
  | .space line =>
    "expected a single word, got text with a space: " ++ String.ofList line.quoted
  | .splitCharacter index text =>
    let before := Text.takeBytes index text
    let inside := (text.drop before.length).take 1
    let start := Text.byteLength before
    let stop := start + Text.byteLength inside
    let shown := Text.takeBytes maxShownBytes text
    s!"byte index {index} is not a char boundary; it is inside '"
      ++ String.ofList (inside.flatMap escaped)
      ++ s!"' (bytes {start}..{stop}) of `" ++ String.ofList shown ++ "`"
      ++ (if shown.length < text.length then "[...]" else "")

/-- The text of a configuration error. -/
def ConfigError.message : ConfigError → String
  | .notFound path => s!"Configuration file not found: {path}"
  | .unreadable reason => s!"Failed to parse configuration: {reason}"
  | .unknownRule name => s!"Unknown rule '{name}' in configuration"
  | .invalidValue key reason => s!"Invalid configuration value for '{key}': {reason}"
  | .alreadyExists path => s!"Configuration file already exists: {path}"

/-- The text of a repository error. -/
def GitError.message : GitError → String
  | .notARepository => "Not a git repository"
  | .openFailed reason => s!"Failed to open repository: {reason}"
  | .invalidReference reference => s!"Invalid commit reference: {reference}"
  | .commandFailed command reason => s!"Git command failed: {command} - {reason}"

/-- The text of an input error. -/
def InputError.message : InputError → String
  | .expectedString field found =>
    s!"AssertionError: expected a string for '{field}' (found {found})"
  | .expectedObject => "AssertionError: expected a JSON object with a 'raw' field"
  | .multiLineHeader header =>
    "AssertionError: expected a single-line header (found " ++ String.ofList header.quoted ++ ")"
  | .emptyMessage => "Empty commit message"

/-- The text of an error. -/
def Error.message : Error → String
  | .config e => "Configuration error: " ++ e.message
  | .git e => "Git error: " ++ e.message
  | .input e => "Input error: " ++ e.message
  | .failed errors warnings =>
    s!"Validation error: {errors} error(s) and {warnings} warning(s) found"
  | .io reason => "IO error: " ++ reason
  | .context task reason => task ++ ": " ++ reason

/-- The error as a text, with the task that it interrupted. -/
def Error.during (e : Error) (task : String) : Error :=
  .context task e.message

end CommitStyle
