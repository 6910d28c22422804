import CommitStyle.Command.Arguments
import CommitStyle.Command.Comments
import CommitStyle.Command.Host
import CommitStyle.Config.Example
import CommitStyle.Config.Overlay
import CommitStyle.Config.Read
import CommitStyle.Config.Search
import CommitStyle.Json.Reader
import CommitStyle.Linter

/-!
# Running a command

`Invocation.run` carries out a command on a host. Only `init` writes a file, and only the new
configuration. A command that lints prints its report and then fails if a message failed.
-/

namespace CommitStyle

/-- Why a command stops: an error, or a function that was misused. -/
inductive Stop where
  | error (e : Error)
  | misuse (e : Misuse)
  deriving DecidableEq, Repr

/-- What a run on a host does. -/
abbrev Run (m : Type → Type) (α : Type) := ExceptT Stop m α

namespace Run

variable {m : Type → Type} [Monad m]

/-- The step that asks the host. -/
def ask {α : Type} (action : m α) : Run m α :=
  ExceptT.lift action

/-- The step that fails with the error of `e`. -/
def orError {α : Type} (e : Except Error α) : Run m α :=
  ExceptT.mk (pure (e.mapError Stop.error))

/-- The step that stops at the misuse of `e`. -/
def orMisuse {α : Type} (e : Except Misuse α) : Run m α :=
  ExceptT.mk (pure (e.mapError Stop.misuse))

/-! ## Configurations -/

/-- The configuration in the file. -/
def readConfig (host : Host m) (path : String) : Run m Config := do
  if !(← ask (host.pathExists path)) then throw (.error (.config (.notFound path)))
  let text ← ask (host.readText path)
  orError ((text.mapError fun e => Error.config (.unreadable e.message)).bind fun t =>
    (Config.ofToml t).mapError .config)

/-- The configurations of user and repository, the one of the repository laid over the other. One
file that is found as both is read once. -/
def readConfigs (host : Host m) (user repository : Option Path) : Run m Config :=
  match user, repository with
  | none, none => pure {}
  | some path, none | none, some path => readConfig host path.written
  | some user, some repository => do
    if user = repository then readConfig host repository.written
    else
      let base ← readConfig host user.written
      return base.overlay (← readConfig host repository.written)

/-- The place of the configuration of the user. -/
def userPlace (host : Host m) : m (Option Path) := do
  Config.firstExisting host.pathExists (Config.userPlaces (← host.home) (← host.settings))

/-- The place of the configuration of the repository. -/
def repositoryPlace (host : Host m) : m (Option Path) := do
  Config.firstExisting host.pathExists (Config.repositoryPlaces (← host.currentDirectory))

/-- The configuration with the repository that the environment names, if it names none itself. -/
def withRepository (host : Host m) (config : Config) : m Config :=
  match config.repository with
  | some _ => return config
  | none => return { config with repository := ← host.nonempty? "GITHUB_REPOSITORY" }

/-- The configuration of a run: the given file, or else the files that are found. -/
def loadConfig (host : Host m) : (given : Option String) → Run m Config
  | some path => do ask (withRepository host (← readConfig host path))
  | none => do
    let user ← ask (userPlace host)
    let repository ← ask (repositoryPlace host)
    ask (withRepository host (← readConfigs host user repository))

/-! ## Linting -/

/-- The input of the command: the given message, the file, or the standard input. -/
def readMessage (host : Host m) (file message : Option String) : Run m Text := do
  match message, file with
  | some message, _ => return message.toList
  | none, some path =>
    orError ((← ask (host.readText path)).mapError fun e =>
      .context ("Failed to read " ++ path) e.message)
  | none, none =>
    orError ((textOf (← ask host.readInput)).mapError fun e =>
      .context "Failed to read stdin" e.message)

/-- The task of reading a message in JSON. -/
def jsonTask : String := "Failed to parse JSON input"

/-- The message of the input, which is a text with comments or an object. -/
def messageOf (json : Bool) (input : Text) : Except Error Message :=
  if json then
    match Json.read? input with
    | some j => (Message.ofJson j).mapError .input
    | none => .error (.context jsonTask "the text is no JSON value")
  else (Message.parse input.withoutComments).mapError .input

/-- The outcome of a run that made these reports. Warnings count only if they are treated as
errors. -/
def outcome (strict : Bool) (reports : List Report) : Except Error Unit :=
  let errors := (reports.flatMap (·.errors)).length
  let warnings := (reports.flatMap (·.warnings)).length
  if 0 < errors ∨ (strict ∧ 0 < warnings) then .error (.failed errors warnings) else .ok ()

/-- A message is linted. -/
def lint (host : Host m) (color : Bool) (i : Invocation) (config : Config)
    (file message : Option String) (json : Bool) : Run m Unit := do
  let input ← readMessage host file message
  let message ← orError (messageOf json input)
  let report ← orMisuse (config.lint message)
  let shown ← orMisuse (report.display i.format)
  ask (host.print (shown.render (color && config.color)))
  orError (outcome i.strict [report])

/-! ## Other commands -/

/-- The text with spaces behind it, up to `width` characters. -/
def padded (width : Nat) (t : Text) : Text :=
  t ++ List.replicate (width - t.length) ' '

/-- The style of a severity in the list of rules. -/
def styleOf : Severity → Style
  | .error => .red
  | .warning => .yellow
  | .disabled => .dim

/-- The line of a rule. -/
def ruleLine (config : Config) (r : Rule) : Styled :=
  let severity := config.severity r
  Styled.inStyle [styleOf severity] (padded 8 severity.name.toList) ++ Styled.ofString " " ++
    Styled.plainly (padded 36 r.name.toList) ++ Styled.ofString " " ++
    Styled.inStyle [.dim] r.description.toList ++ Styled.ofString "\n"

/-- A rule as an object. -/
def ruleObject (config : Config) (r : Rule) : Json :=
  Json.ofFields [
    ("name", .string r.name),
    ("severity", .string (config.severity r).name),
    ("description", .string r.description)]

/-- All rules with their severities. -/
def ruleList (config : Config) : Option OutputFormat → Styled
  | some .json => Styled.plainly ((Json.array (Rule.all.map (ruleObject config))).pretty ++ ['\n'])
  | _ => Rule.all.flatMap (ruleLine config)

/-- A new configuration file. One that exists is replaced only on demand. -/
def init (host : Host m) (color force : Bool) : Run m Unit := do
  if (← ask (host.pathExists Config.fileName)) && !force then
    throw (.error (.config (.alreadyExists Config.fileName)))
  match ← ask (host.writeFile Config.fileName Config.sample.toUTF8) with
  | .error e =>
    throw (.error (.context "init" ("Failed to write configuration: " ++ e.message)))
  | .ok () =>
    ask (host.print ((Styled.inStyle [.green] ['✓'] ++
      Styled.ofString (" Created " ++ Config.fileName ++ "\n")).render color))

/-- The version of the program. -/
def versionText : String := "cmlint 1.0.0\n"

end Run

/-- The invocation is carried out. Colours need a terminal that has them and a configuration that
wants them. The commits of a repository cannot be read, so that none is found to check. -/
def Invocation.run {m : Type → Type} [Monad m] (host : Host m) (color : Bool) (i : Invocation) :
    Run m Unit := do
  match i.command with
  | .init force => Run.init host color force
  | .version => Run.ask (host.print Run.versionText.toList)
  | .lint file message json => do
    let config ← Run.loadConfig host i.config
    Run.lint host color i config file message json
  | .check _ _ => do
    let _ ← Run.loadConfig host i.config
    throw (.error (.git .notARepository))
  | .rules => do
    let config ← Run.loadConfig host i.config
    Run.ask (host.print ((Run.ruleList config i.format).render (color && config.color)))

end CommitStyle
