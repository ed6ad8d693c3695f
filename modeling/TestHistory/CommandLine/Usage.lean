/-!
# The options of the command line

The default action writes the report; `compare` and `flaky` are commands of their own. Every
command takes a path, options of its own and the common options.
-/

namespace TestHistory.CommandLine

inductive Command where
  | generate
  | compare
  | flaky
  deriving DecidableEq, Repr

inductive Opt where
  | json
  | verbose
  | quiet
  | logJson
  | noColor
  | config
  | help
  | version
  | output
  | title
  | runPrefix
  | base
  | head
  deriving DecidableEq, Repr

/-- Why arguments start no command. -/
inductive UsageError where
  | invalidValue
  | unknownArgument
  | argumentConflict
  | tooManyValues
  | invalidSubcommand
  /-- Help was asked for. -/
  | displayHelp
  | displayVersion
  deriving DecidableEq, Repr

namespace Command

def name? : Command → Option String
  | generate => none
  | compare => some "compare"
  | flaky => some "flaky"

/-- The commands that are called by name. -/
def ofName? (name : String) : Option Command :=
  [compare, flaky].find? fun command => command.name? = some name

def common : List Opt :=
  [.json, .verbose, .quiet, .logJson, .noColor, .config, .help]

def options : Command → List Opt
  | generate => common ++ [.version, .output, .title, .runPrefix]
  | compare => common ++ [.base, .head, .runPrefix]
  | flaky => common ++ [.runPrefix]

end Command

namespace Opt

def longName : Opt → String
  | json => "json"
  | verbose => "verbose"
  | quiet => "quiet"
  | logJson => "log-json"
  | noColor => "no-color"
  | config => "config"
  | help => "help"
  | version => "version"
  | output => "output"
  | title => "title"
  | runPrefix => "run-prefix"
  | base => "base"
  | head => "head"

def letter? : Opt → Option Char
  | verbose => some 'v'
  | quiet => some 'q'
  | help => some 'h'
  | version => some 'V'
  | output => some 'o'
  | _ => none

def takesValue : Opt → Bool
  | config | output | title | runPrefix | base | head => true
  | _ => false

/-- A path is not empty. -/
def isPath : Opt → Bool
  | config | output => true
  | _ => false

end Opt

namespace UsageError

def exitCode : UsageError → Nat
  | displayHelp | displayVersion => 0
  | _ => 2

def message : UsageError → String
  | invalidValue => "a value is missing or empty"
  | unknownArgument => "unexpected argument"
  | argumentConflict => "an argument is given twice"
  | tooManyValues => "an option without a value has one"
  | invalidSubcommand => "unknown command"
  | displayHelp => "help was asked for"
  | displayVersion => "the version was asked for"

end UsageError

end TestHistory.CommandLine
