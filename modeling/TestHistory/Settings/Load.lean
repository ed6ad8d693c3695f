import TestHistory.Files.System
import TestHistory.Log
import TestHistory.Settings.Config

/-!
# Where settings come from

From the lowest to the highest: the user's file, the file in the root of the results or one that is
named explicitly, the variables of the environment, and the command line.
-/

namespace TestHistory

/-- Settings of the command line. -/
structure Overrides where
  config : Option Path
  output : Option Path
  title : Option String
  runPrefix : Option String

namespace Overrides

def none : Overrides :=
  ⟨.none, .none, .none, .none⟩

def toLayer (o : Overrides) : Layer :=
  Layer.ofList (
    (o.output.map fun path => ("output", path.text)).toList ++
    (o.title.map fun title => ("title", title)).toList ++
    (o.runPrefix.map fun text => ("run-prefix", text)).toList)

end Overrides

namespace Config

/-- What follows the path of a file that is no YAML. -/
def yamlProblem : String := "invalid YAML"

def parseLayer (path : Path) (text : String) (order : Layer.HashOrder) : Except Failure Layer :=
  match Yaml.Value.parse? text with
  | some value => .ok (Layer.ofYaml value order)
  | none => .error (.config (path.text ++ ": " ++ yamlProblem))

/-- The layer of a file; one that does not exist is empty. -/
def readLayer (fs : FileSystem) (path : Path) (order : Layer.HashOrder := .document) :
    Logged (Except Failure Layer) :=
  if fs.contains path then do
    Logged.debug "Loading config file"
    match fs.readText path with
    | .ok text => return parseLayer path text order
    | .error e => return .error (.io e.message)
  else return .ok Layer.empty

def userFile (home : String) : Path :=
  (((Path.mk home).join ".config").join "e2e-report").join "config.yaml"

def readUserLayer (fs : FileSystem) (home : Option String) (order : Layer.HashOrder) :
    Logged (Except Failure Layer) :=
  match home with
  | some home => readLayer fs (userFile home) order
  | none => return .ok Layer.empty

def projectFile : String := ".e2e-report.yaml"

/-- A file that is named has to exist. -/
def readProjectLayer (fs : FileSystem) (root : Path) (named : Option Path)
    (order : Layer.HashOrder) : Logged (Except Failure Layer) :=
  match named with
  | some path =>
    if fs.contains path then readLayer fs path order
    else return .error (.config ("config file not found: " ++ path.text))
  | none => readLayer fs (root.join projectFile) order

/-- The orders in which the two files list their settings in one load. -/
structure Orders where
  user : Layer.HashOrder
  project : Layer.HashOrder

/-- Both in the order of their document. -/
def Orders.document : Orders :=
  ⟨.document, .document⟩

def load (fs : FileSystem) (root : Path) (environment : List (String × String))
    (overrides : Overrides) (orders : Orders := .document) : Logged (Except Failure Config) := do
  match ← readUserLayer fs (environment.lookup "HOME") orders.user with
  | .error e => return .error e
  | .ok user =>
    match ← readProjectLayer fs root overrides.config orders.project with
    | .error e => return .error e
    | .ok project =>
      return ofLayer (Layer.mergeAll
        [user, project, Layer.ofVariables environment, overrides.toLayer])

end Config

end TestHistory
