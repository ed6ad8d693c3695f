import TestHistory.CommandLine.Action

/-!
# The program

`run` takes arguments and surroundings to everything that a call shows and leaves behind: both
outputs, the exit code and the files.
-/

namespace TestHistory.CommandLine

/-- How a call ends. -/
structure Ending where
  files : FileSystem
  /-- The file that was opened for writing. -/
  written : Option Path
  output : String
  errors : String
  exitCode : Nat

def programName : String := "e2e-report"

def versionLine : String := programName ++ " 0.1.0\n"

def usageLine : String :=
  "Usage: " ++ programName ++ " [OPTIONS] [PATH]\n" ++
  "       " ++ programName ++ " [compare|flaky] [OPTIONS] [PATH]\n"

def Opt.usage (o : Opt) : String :=
  let letter := match o.letter? with
    | some c => "-" ++ c.toString ++ ", "
    | none => "    "
  "  " ++ letter ++ "--" ++ o.longName ++ (if o.takesValue then " <VALUE>" else "") ++ "\n"

def helpText : String :=
  usageLine ++ "\nOptions:\n" ++
    String.join ((Command.generate.options ++ [Opt.base, Opt.head]).map Opt.usage)

/-- Arguments that start no command. -/
def refuse (files : FileSystem) (e : UsageError) : Ending :=
  match e with
  | .displayHelp => ⟨files, none, helpText, "", e.exitCode⟩
  | .displayVersion => ⟨files, none, versionLine, "", e.exitCode⟩
  | _ => ⟨files, none, "", "error: " ++ e.message ++ "\n\n" ++ usageLine, e.exitCode⟩

def eventJson (e : Event) : Json.Value :=
  .object [("level", .string e.level.name), ("message", .string e.message)]

def eventLine (logJson : Bool) (e : Event) : String :=
  if logJson then (eventJson e).compact ++ "\n" else e.text ++ "\n"

/-- The events that the arguments ask for. -/
def shownEvents (a : Arguments) (events : List Event) : List Event :=
  events.filter fun e => e.level.shownAt (Level.ofFlags a.verbose a.quiet)

/-- A failure is told to a person only where a person reads the answers. -/
def failureText (o : Occasion) (a : Arguments) (f : Failure) : String :=
  if a.json || !o.onTerminal then jsonLine f.toJson else f.humanText o.errorsOnTerminal ++ "\n"

def conclude (o : Occasion) (a : Arguments) (outcome : Logged Outcome) : Ending where
  files := outcome.value.files
  written := outcome.value.written
  output := outcome.value.output
  errors :=
    String.join ((shownEvents a outcome.events).map (eventLine a.logJson)) ++
      (outcome.value.failure.map (failureText o a)).getD ""
  exitCode := (outcome.value.failure.map fun f => f.code.exitCode).getD 0

def run (o : Occasion) (args : List String) : Ending :=
  match Arguments.parse args o.environment with
  | .error e => refuse o.files e
  | .ok a => conclude o a (act o a)

end TestHistory.CommandLine
