import WorkflowForge.Json.Value

/-!
Log events, and the journal that collects them. Settings bound for a while are added to every event that does not
carry them itself.
-/

namespace WorkflowForge

inductive Level where
  | debug
  | info
  | warning
  | error
  | critical
deriving DecidableEq, Repr, Inhabited

namespace Level

def rank : Level → Nat
  | .debug => 10
  | .info => 20
  | .warning => 30
  | .error => 40
  | .critical => 50

def name : Level → String
  | .debug => "debug"
  | .info => "info"
  | .warning => "warning"
  | .error => "error"
  | .critical => "critical"

def ofName? (s : String) : Option Level := [debug, info, warning, error, critical].find? (·.name == s)

end Level

structure Event where
  level : Level
  logger : String
  name : String
  fields : Fields
deriving Inhabited

/-- All fields of an event as one object. -/
def Event.toJson (e : Event) : Json :=
  .object (Fields.merged (e.fields ++
    [("event", .string e.name), ("level", .string e.level.name), ("logger", .string e.logger)]))

structure Journal where
  bound : Fields
  events : List Event
deriving Inhabited

namespace Journal

def empty : Journal := ⟨[], []⟩

/-- Adds the bound settings that are not among the fields. -/
def withBound (bound fields : Fields) : Fields := fields ++ bound.filter fun (name, _) => !Fields.has fields name

def emit (j : Journal) (level : Level) (logger name : String) (fields : Fields) : Journal :=
  { j with events := j.events ++ [⟨level, logger, name, withBound j.bound fields⟩] }

def bind (j : Journal) (settings : Fields) : Journal :=
  { j with bound := settings.foldl (fun acc (name, v) => Fields.set acc name v) j.bound }

def unbind (j : Journal) (names : List String) : Journal :=
  { j with bound := j.bound.filter fun (name, _) => !names.contains name }

/-- Drops all bound settings. -/
def clear (j : Journal) : Journal := { j with bound := [] }

/-- The events of at least a rank. -/
def atLeast (j : Journal) (rank : Nat) : List Event := j.events.filter fun e => rank ≤ e.level.rank

end Journal

end WorkflowForge
