/-!
# Usage errors

Why a command line is not carried out: it is wrong, or it asks for help or for the version.
-/

namespace CommitStyle

/-- Why a command line is not carried out. -/
inductive UsageError where
  /-- An option or an argument that nothing takes. -/
  | unknownArgument
  /-- Two options that exclude each other, or one option twice. -/
  | argumentConflict
  /-- A value that is missing or that the option refuses. -/
  | invalidValue
  /-- The name of no command in the place of one. -/
  | invalidCommand
  /-- A value for an option that takes none. -/
  | tooManyValues
  /-- Options without a command. -/
  | missingCommand
  /-- Neither an option nor a command. -/
  | nothingGiven
  | helpAsked
  | versionAsked
  deriving DecidableEq, Repr

/-- The name of the kind of error. -/
def UsageError.name : UsageError → String
  | .unknownArgument => "UnknownArgument"
  | .argumentConflict => "ArgumentConflict"
  | .invalidValue => "InvalidValue"
  | .invalidCommand => "InvalidSubcommand"
  | .tooManyValues => "TooManyValues"
  | .missingCommand => "MissingSubcommand"
  | .nothingGiven => "DisplayHelpOnMissingArgumentOrSubcommand"
  | .helpAsked => "DisplayHelp"
  | .versionAsked => "DisplayVersion"

end CommitStyle
