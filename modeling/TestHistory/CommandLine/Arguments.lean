import TestHistory.CommandLine.Usage
import TestHistory.Settings.Load

/-!
# Reading the arguments

`Arguments.parse` reads the arguments from left to right. An option or a path is settled when the
next one comes or the arguments end, and only then is its value looked at; what cannot be an
argument at all is refused at once.
-/

namespace TestHistory.CommandLine

/-- What the arguments ask for. -/
structure Arguments where
  command : Command
  path : Path
  json : Bool
  verbose : Nat
  quiet : Bool
  logJson : Bool
  noColor : Bool
  config : Option Path
  output : Option Path
  title : Option String
  runPrefix : Option String
  base : Option String
  head : Option String

/-- An argument that is not settled. -/
inductive Pending where
  | path (text : String)
  | option (o : Opt) (value : Option String)

structure Reader where
  command : Command
  path : Option String
  flags : List Opt
  verbose : Nat
  values : List (Opt × String)
  pending : Option Pending
  /-- Two hyphens have ended the options. -/
  pathsOnly : Bool

def maxVerbose : Nat := 255

namespace Reader

def start (command : Command) : Reader :=
  ⟨command, none, [], 0, [], none, false⟩

/-- Sets an option that may be given once. -/
def setValue (r : Reader) (o : Opt) (value : String) : Except UsageError Reader :=
  if (r.values.lookup o).isSome then .error .argumentConflict
  else if o.isPath ∧ value = "" then .error .invalidValue
  else .ok { r with values := (o, value) :: r.values }

def settle (r : Reader) : Except UsageError Reader :=
  let settled := { r with pending := none }
  match r.pending with
  | none => .ok r
  | some (.path "") => .error .invalidValue
  | some (.path text) => .ok { settled with path := some text }
  | some (.option _ none) => .error .invalidValue
  | some (.option o (some value)) => settled.setValue o value

/-- An option without a value. -/
def setFlag (r : Reader) (o : Opt) : Except UsageError Reader := do
  let r ← r.settle
  match o with
  | .help => .error .displayHelp
  | .version => .error .displayVersion
  | .verbose => .ok { r with verbose := min (r.verbose + 1) maxVerbose }
  | o =>
    if r.flags.contains o then .error .argumentConflict
    else .ok { r with flags := o :: r.flags }

/-- An option with the value attached to it, or else with one that has to follow. -/
def setOption (r : Reader) (o : Opt) (attached : Option String) : Except UsageError Reader := do
  let r ← r.settle
  match attached with
  | some value => r.setValue o value
  | none => .ok { r with pending := some (.option o none) }

/-- The name of a long option and the text after an equals sign. -/
def splitLong (text : List Char) : List Char × Option String :=
  match text.dropWhile (· ≠ '=') with
  | _ :: value => (text.takeWhile (· ≠ '='), some (String.ofList value))
  | [] => (text, none)

def long (r : Reader) (text : List Char) : Except UsageError Reader :=
  let (name, attached) := splitLong text
  match r.command.options.find? fun o => o.longName.toList = name with
  | none => .error .unknownArgument
  | some o =>
    if o.takesValue then r.setOption o attached
    else if attached.isSome then .error .tooManyValues
    else r.setFlag o

/-- The value attached to a letter, with or without an equals sign. -/
def attachedValue : List Char → Option String
  | [] => none
  | '=' :: value => some (String.ofList value)
  | value => some (String.ofList value)

/-- Letters of options; the first one that takes a value takes the rest for it. -/
def short (r : Reader) : List Char → Except UsageError Reader
  | [] => .ok r
  | c :: rest =>
    match r.command.options.find? fun o => o.letter? = some c with
    | none => .error .unknownArgument
    | some o =>
      if o.takesValue then r.setOption o (attachedValue rest)
      else
        match r.setFlag o with
        | .ok r => r.short rest
        | .error e => .error e

/-- A command takes one path. -/
def takePath (r : Reader) (text : String) : Except UsageError Reader :=
  let isFirst := r.path.isNone && !(r.pending matches some (.path _))
  if isFirst then do
    let r ← r.settle
    .ok { r with pending := some (.path text) }
  else .error (if r.command = .generate then .argumentConflict else .unknownArgument)

def step (r : Reader) (arg : String) : Except UsageError Reader :=
  if r.pathsOnly then r.takePath arg
  else
    match arg.toList with
    | ['-', '-'] => .ok { r with pathsOnly := true }
    | '-' :: '-' :: text => r.long text
    | '-' :: c :: rest => r.short (c :: rest)
    | _ =>
      match r.pending with
      | some (.option o none) => .ok { r with pending := some (.option o (some arg)) }
      | _ => r.takePath arg

/-- The configuration file that the environment names stands in for a missing option. The default
action looks at it even when a command that is called by name has the option. -/
def configPath (r : Reader) (named : Option String) : Except UsageError (Option Path) :=
  let given := r.values.lookup .config
  if named = some "" ∧ (given.isNone ∨ r.command ≠ .generate) then .error .invalidValue
  else .ok ((given.or named).map Path.mk)

def finish (r : Reader) (environment : List (String × String)) : Except UsageError Arguments := do
  let r ← r.settle
  let config ← r.configPath (environment.lookup "E2E_REPORT_CONFIG")
  return {
    command := r.command
    path := ⟨r.path.getD "."⟩
    json := r.flags.contains .json
    verbose := r.verbose
    quiet := r.flags.contains .quiet
    logJson := r.flags.contains .logJson
    noColor := r.flags.contains .noColor
    config
    output := (r.values.lookup .output).map Path.mk
    title := r.values.lookup .title
    runPrefix := r.values.lookup .runPrefix
    base := r.values.lookup .base
    head := r.values.lookup .head }

end Reader

/-- Help on a command, or on help itself. -/
def helpOn : List String → UsageError
  | [] => .displayHelp
  | [name] =>
    if name = "help" ∨ (Command.ofName? name).isSome then .displayHelp else .invalidSubcommand
  | _ => .invalidSubcommand

namespace Arguments

def readFor (command : Command) (args : List String) (environment : List (String × String)) :
    Except UsageError Arguments := do
  (← args.foldlM Reader.step (Reader.start command)).finish environment

/-- A command is called by the first argument; anywhere else its name is a path. -/
def parse (args : List String) (environment : List (String × String)) :
    Except UsageError Arguments :=
  match args with
  | "help" :: names => .error (helpOn names)
  | first :: rest =>
    match Command.ofName? first with
    | some command => readFor command rest environment
    | none => readFor .generate args environment
  | [] => readFor .generate [] environment

/-- The settings that the arguments make. -/
def overrides (a : Arguments) : Overrides :=
  ⟨a.config, a.output, a.title, a.runPrefix⟩

end Arguments

end TestHistory.CommandLine
