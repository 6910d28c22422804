import CommitStyle.Command.Usage
import CommitStyle.Report.Display

/-!
# Command lines

A command line has options, the name of a command, and options of that command behind its name.
Some options belong to every command and may stand on either side of the name. `Scan` is what is
known of one side after some arguments; `Invocation.parse` reads the whole line.

The value of an option is settled when the next option begins or its side ends. So of two faults
the one found first in this order is reported, and an option that nothing takes is reported before
a value that is still open. Behind a double hyphen nothing is an option.
-/

namespace CommitStyle

/-! ## Commands and options -/

/-- The commands. -/
inductive Task where
  | lint | check | rules | init | version
  deriving DecidableEq, Repr

/-- The name of the command. -/
def Task.name : Task → String
  | .lint => "lint"
  | .check => "check"
  | .rules => "rules"
  | .init => "init"
  | .version => "version"

/-- The command with this name. -/
def Task.ofName? (name : String) : Option Task :=
  [Task.lint, .check, .rules, .init, .version].find? fun task => task.name == name

/-- The options. -/
inductive Switch where
  | strict | debug | format | config
  | help | version
  | file | message | json
  | range
  | force
  deriving DecidableEq, Repr

namespace Switch

/-- The name behind two hyphens. -/
def long : Switch → String
  | .strict => "strict"
  | .debug => "debug"
  | .format => "format"
  | .config => "config"
  | .help => "help"
  | .version => "version"
  | .file => "file"
  | .message => "message"
  | .json => "json"
  | .range => "range"
  | .force => "force"

/-- The letter behind one hyphen. -/
def short? : Switch → Option Char
  | .debug => some 'd'
  | .config => some 'c'
  | .help => some 'h'
  | .version => some 'V'
  | .file => some 'f'
  | .message => some 'm'
  | .force => some 'f'
  | .strict | .format | .json | .range => none

/-- The option has a value. -/
def takesValue : Switch → Bool
  | .format | .config | .file | .message => true
  | _ => false

/-- The option takes this value. -/
def accepts : Switch → String → Bool
  | .format, v => v == "text" || v == "json"
  | .config, v | .file, v => v ≠ ""
  | _, _ => true

/-- The options of every command. -/
def shared : List Switch :=
  [.strict, .debug, .format, .config, .help, .version]

/-- The options of one command alone. -/
def own : Option Task → List Switch
  | some .lint => [.file, .message, .json]
  | some .check => [.range]
  | some .init => [.force]
  | _ => []

end Switch

/-! ## One side of the line -/

/-- What is known of one side of the line: before the name of the command or behind it. -/
structure Scan where
  /-- The command behind whose name the side is. -/
  task : Option Task
  /-- The options with their values, where one without a value has an empty one. -/
  given : List (Switch × String) := []
  /-- The option whose value is awaited or not yet settled. -/
  pending : Option (Switch × Option String) := none
  /-- A double hyphen came. -/
  trailing : Bool := false
  /-- What the command is about. -/
  target : Option String := none
  deriving DecidableEq, Repr

namespace Scan

/-- The options that may stand on this side. -/
def switches (s : Scan) : List Switch :=
  Switch.shared ++ Switch.own s.task

/-- The option was given. -/
def has (s : Scan) (o : Switch) : Bool :=
  s.given.any (·.1 = o)

/-- The value that was given for the option. -/
def value? (s : Scan) (o : Switch) : Option String :=
  s.given.lookup o

/-- The value of an option comes next. -/
def isAwaiting (s : Scan) : Bool :=
  match s.pending with
  | some (_, none) => !s.trailing
  | _ => false

/-- The side with an option and its value. -/
def record (s : Scan) (o : Switch) (value : String) : Except UsageError Scan :=
  if s.has o then .error .argumentConflict
  else if !o.accepts value then .error .invalidValue
  else .ok { s with given := s.given ++ [(o, value)] }

/-- The side with the open value settled. -/
def settle (s : Scan) : Except UsageError Scan :=
  match s.pending with
  | none => .ok s
  | some (_, none) => .error .invalidValue
  | some (o, some value) => { s with pending := none }.record o value

/-- The side with an option, which may have a value attached. -/
def option (s : Scan) (o : Switch) (attached : Option String) : Except UsageError Scan :=
  if o.takesValue then
    s.settle.bind fun s =>
      match attached with
      | some value => s.record o value
      | none => .ok { s with pending := some (o, none) }
  else if attached.isSome then .error .tooManyValues
  else
    s.settle.bind fun s =>
      match o with
      | .help => .error .helpAsked
      | .version => .error .versionAsked
      | o => s.record o ""

/-- The side with the letters behind a hyphen. What follows a letter that has a value is the
value. -/
def letters (s : Scan) : Text → Except UsageError Scan
  | [] => .ok s
  | c :: rest =>
    match s.switches.find? fun o => o.short? == some c with
    | none => .error .unknownArgument
    | some o =>
      if !o.takesValue then (s.option o none).bind fun s => s.letters rest
      else match rest with
        | [] => s.option o none
        | '=' :: value | value => s.option o (some (String.ofList value))

/-- The side with the option of this name. What follows a sign of equality is its value. -/
def named (s : Scan) (t : Text) : Except UsageError Scan :=
  let name := t.takeWhile (· ≠ '=')
  let attached := match t.dropWhile (· ≠ '=') with
    | [] => none
    | _ :: value => some (String.ofList value)
  match s.switches.find? fun o => o.long == String.ofList name with
  | none => .error .unknownArgument
  | some o => s.option o attached

/-- The side with an argument that is no option and no value. Only one command takes one. -/
def positional (s : Scan) (arg : String) : Except UsageError Scan :=
  match s.task, s.target with
  | some .check, none => s.settle.map fun s => { s with target := some arg }
  | some _, _ => .error .unknownArgument
  | none, _ =>
    if s.trailing && ((Task.ofName? arg).isSome || arg == "help") then .error .unknownArgument
    else .error .invalidCommand

/-- The side with one argument more. -/
def argument (s : Scan) (arg : String) : Except UsageError Scan :=
  if s.trailing then s.positional arg
  else match arg.toList with
    | ['-', '-'] => .ok { s with trailing := true }
    | '-' :: '-' :: name => s.named name
    | '-' :: c :: cs => s.letters (c :: cs)
    | _ =>
      match s.isAwaiting, s.pending with
      | true, some (o, _) => .ok { s with pending := some (o, some arg) }
      | _, _ => s.positional arg

end Scan

/-! ## Whole lines -/

/-- The values that the environment gives to options. -/
structure Defaults where
  strict : Option String := none
  config : Option String := none
  deriving DecidableEq, Repr

/-- The environment gives values that the options do not have and take. -/
def Scan.allows (s : Scan) (d : Defaults) : Bool :=
  (s.has .strict || d.strict.all fun v => v == "true" || v == "false") &&
    (s.has .config || d.config.all Switch.config.accepts)

/-- The side as it is at its end. -/
def Scan.finish (s : Scan) (d : Defaults) : Except UsageError Scan :=
  s.settle.bind fun s =>
    if !s.allows d then .error .invalidValue
    else if s.has .file && s.has .message then .error .argumentConflict
    else .ok s

/-- What a command is to do. -/
inductive Command where
  | lint (file message : Option String) (json : Bool)
  | check (target : String) (range : Bool)
  | rules
  | init (force : Bool)
  | version
  deriving DecidableEq, Repr

/-- A command with the options of every command. -/
structure Invocation where
  command : Command
  strict : Bool
  format : Option OutputFormat
  config : Option String
  deriving DecidableEq, Repr

namespace Invocation

/-- The command of the side behind its name. -/
def commandOf (task : Task) (s : Scan) : Command :=
  match task with
  | .lint => .lint (s.value? .file) (s.value? .message) (s.has .json)
  | .check => .check (s.target.getD "HEAD") (s.has .range)
  | .rules => .rules
  | .init => .init (s.has .force)
  | .version => .version

/-- The invocation of both sides. The side behind the name comes before the other one, and the line
before the environment. -/
def ofSides (task : Task) (before behind : Scan) (d : Defaults) : Invocation where
  command := commandOf task behind
  strict := behind.has .strict || before.has .strict || d.strict == some "true"
  format := ((behind.value? .format).or (before.value? .format)).map fun v =>
    if v == "json" then .json else .text
  config := ((behind.value? .config).or (before.value? .config)).or d.config

/-- What is said of a line without a command. -/
def missing (s : Scan) (d : Defaults) : UsageError :=
  if s.given.isEmpty && d.strict.isNone && d.config.isNone then .nothingGiven
  else .missingCommand

/-- What is said of a line that asks for help with the commands of these names. -/
def help : List String → UsageError
  | [] => .helpAsked
  | [name] =>
    if (Task.ofName? name).isSome || name == "help" then .helpAsked else .invalidCommand
  | _ => .invalidCommand

/-- The invocation of the arguments behind what `s` knows. -/
def parseFrom (d : Defaults) (s : Scan) : List String → Except UsageError Invocation
  | [] => (s.finish d).bind fun s => .error (missing s d)
  | arg :: rest =>
    let name? := if s.trailing || s.isAwaiting then none else some arg
    if name? = some "help" then .error (help rest)
    else match name?.bind Task.ofName? with
      | some task => do
        let behind ← (← rest.foldlM Scan.argument { task := some task }).finish d
        let before ← s.finish d
        return ofSides task before behind d
      | none => (s.argument arg).bind fun s => parseFrom d s rest

/-- The invocation of the command line. -/
def parse (d : Defaults) (args : List String) : Except UsageError Invocation :=
  parseFrom d { task := none } args

end Invocation
end CommitStyle
