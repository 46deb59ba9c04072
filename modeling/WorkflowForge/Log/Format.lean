import WorkflowForge.Data.Datum
import WorkflowForge.Log.Event
import WorkflowForge.Settings.Environment

/-!
How log events are chosen and written: from which rank on, and as JSON or as lines for a console.
-/

namespace WorkflowForge

namespace Level

/-- The rank that a level's name stands for. -/
def rankOfName? : String → Option Int
  | "CRITICAL" | "FATAL" => some 50
  | "ERROR" => some 40
  | "WARNING" | "WARN" => some 30
  | "INFO" => some 20
  | "DEBUG" => some 10
  | "NOTSET" => some 0
  | _ => none

end Level

inductive LogFormat where
  | json
  | console
deriving DecidableEq, Repr, Inhabited

/-- From which rank on events are written, and how. -/
structure LogSettings where
  rank : Int
  format : LogFormat
deriving DecidableEq, Repr, Inhabited

namespace LogSettings

def levelVariable : String := "FLOWSMITH_LOG_LEVEL"

def formatVariable : String := "FLOWSMITH_LOG_FORMAT"

/-- The rank named in the environment; without a known name it is that of information. -/
def rankOf (env : Environment) : Int :=
  ((env.lookup levelVariable).bind fun name => Level.rankOfName? (Text.upper name)).getD 20

/-- A given rank wins over the environment's, and JSON that is asked for over its format. -/
def choose (env : Environment) (forceJson : Bool) (rank : Option Int) : LogSettings :=
  let named := ((env.lookup formatVariable).map Text.lower) == some "json"
  ⟨rank.getD (rankOf env), if forceJson || named then .json else .console⟩

def admits (s : LogSettings) (e : Event) : Bool := s.rank ≤ e.level.rank

end LogSettings

namespace Event

def padded (width : Nat) (s : String) : String := s ++ String.ofList (List.replicate (width - s.length) ' ')

/-- Whether a text stands out from its surroundings only between quotes. -/
def needsQuotes (s : String) : Bool := s.toList.any [' ', '\t', '=', '\r', '\n', '"', '\''].contains

/-- A value as the console shows it. -/
def consoleValue (v : Json) : String :=
  match v with
  | .string s => if needsQuotes s then Text.quoted s else s
  | v => (Datum.ofJson v).displayQuoted

/-- The event as a line: level, event and logger in columns, and the other fields by name. -/
def consoleLine (e : Event) : String :=
  let own := ["event", "level", "logger"]
  let fields := (Fields.merged e.fields).filter fun (name, _) => !own.contains name
  let fields := fields.mergeSort fun a b => a.1 ≤ b.1
  let pairs := fields.map fun (name, v) => s!" {name}={consoleValue v}"
  s!"[{padded 9 e.level.name}] {padded 30 e.name} [{e.logger}]{String.join pairs}"

def jsonLine (e : Event) : String := e.toJson.text { Layout.oneLine with ascii := true }

def line (format : LogFormat) (e : Event) : String :=
  match format with
  | .json => e.jsonLine
  | .console => e.consoleLine

end Event

end WorkflowForge
