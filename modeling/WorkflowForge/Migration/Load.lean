import WorkflowForge.Files.Disk
import WorkflowForge.Json.Reader
import WorkflowForge.Log.Event
import WorkflowForge.Migration.Check
import WorkflowForge.Yaml.Load

/-!
Loading a migration model from a file. A file named as JSON is read as JSON and any other as YAML; a file without
content holds the empty model.
-/

namespace WorkflowForge

/-- Why a model could not be loaded. -/
inductive LoadFault where
  | notFound
  | badJson (e : Json.ReadError)
  | badYaml
  | invalid (v : Violation)
deriving Inhabited

namespace LoadFault

def message (path : Path) : LoadFault → String
  | .notFound => s!"Migration model file not found: {path.toText}"
  | .badJson e => s!"Unable to parse migration model: {e.message}"
  | .badYaml => "Unable to parse migration model"
  | .invalid v => s!"Invalid migration model at '{v.placeText}': {v.complaint.message}"

end LoadFault

/-- Why loading stops: the file is to blame, or its text cannot be taken for data at all. -/
inductive LoadStop where
  | refused (path : Path) (f : LoadFault)
  | disk (e : DiskError)
  | yaml (m : Yaml.Mistake)
deriving Inhabited

namespace MigrationModel

def loadLogger : String := "flowsmith.models.loader"

/-- The data in a text, JSON where the path says so. -/
def parseText (path : Path) (s : String) : Except LoadStop Datum :=
  if path.hasSuffixIn [".json"] then
    match Json.read s with
    | .ok v => .ok (.ofJson v)
    | .error e => .error (.refused path (.badJson e))
  else
    match Yaml.load s with
    | .ok d => .ok d
    | .error .malformed => .error (.refused path .badYaml)
    | .error m => .error (.yaml m)

/-- The data in the file of a model. -/
def readData (disk : Disk) (path : Path) : Except LoadStop Datum := do
  if !disk.isFile path then throw (.refused path .notFound)
  match disk.readText path with
  | .ok s => parseText path s
  | .error e => throw (.disk e)

/-- The model in some data. -/
def accept (path : Path) (d : Datum) : Except LoadStop MigrationModel :=
  match ofDatum d with
  | .ok model => .ok model
  | .error (v :: _) => .error (.refused path (.invalid v))
  | .error [] => .error (.refused path (.invalid default))

/-- Loads a model, and logs that it was empty or how much it holds. -/
def load (disk : Disk) (path : Path) (j : Journal) : Except LoadStop MigrationModel × Journal :=
  let location : String × Json := ("path", .string path.toText)
  match readData disk path with
  | .error stop => (.error stop, j)
  | .ok data =>
    let isEmpty := match data with
      | .null => true
      | _ => false
    let j := if isEmpty then j.emit .warning loadLogger "migration_model_empty" [location] else j
    match accept path (if isEmpty then .map [] else data) with
    | .error stop => (.error stop, j)
    | .ok model =>
      (.ok model, j.emit .debug loadLogger "migration_model_loaded"
        [location, ("applications", .int model.applications.length)])

end MigrationModel

end WorkflowForge
