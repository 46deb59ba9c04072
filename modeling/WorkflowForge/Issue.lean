import WorkflowForge.Log.Event

/-!
Issues found while workflows are generated. The kind of an issue fixes how severe it is.
-/

namespace WorkflowForge

inductive Severity where
  | debug
  | warning
  | error
deriving DecidableEq, Repr, Inhabited

namespace Severity

def name : Severity → String
  | .debug => "debug"
  | .warning => "warning"
  | .error => "error"

def level : Severity → Level
  | .debug => .debug
  | .warning => .warning
  | .error => .error

end Severity

inductive IssueKind where
  | missingSnippet
  | missingPlaceholder
  | structuralPathNotFound
  | missingWorkflowModel
  | missingOutputPath
  | renderFailed
deriving DecidableEq, Repr, Inhabited

namespace IssueKind

def all : List IssueKind :=
  [missingSnippet, missingPlaceholder, structuralPathNotFound, missingWorkflowModel, missingOutputPath, renderFailed]

def name : IssueKind → String
  | .missingSnippet => "missing_snippet"
  | .missingPlaceholder => "missing_placeholder"
  | .structuralPathNotFound => "structural_path_not_found"
  | .missingWorkflowModel => "missing_workflow_model"
  | .missingOutputPath => "missing_output_path"
  | .renderFailed => "render_failed"

def ofName? (s : String) : Option IssueKind := all.find? (·.name == s)

def severity : IssueKind → Severity
  | .missingSnippet => .warning
  | .missingPlaceholder => .debug
  | .structuralPathNotFound | .missingWorkflowModel | .missingOutputPath | .renderFailed => .error

end IssueKind

structure Issue where
  kind : IssueKind
  workflow : String
  message : String
  path : Option String
deriving DecidableEq, Repr, Inhabited

namespace Issue

def severity (i : Issue) : Severity := i.kind.severity

def isError (i : Issue) : Bool := i.severity == .error

def isWarning (i : Issue) : Bool := i.severity == .warning

def display (i : Issue) : String :=
  match i.path with
  | some path => if path == "" then s!"[{i.workflow}] {i.message}" else s!"[{i.workflow}] {i.message} ({path})"
  | none => s!"[{i.workflow}] {i.message}"

/-- An issue with its kind in front, as reports list it. -/
def displayWithKind (i : Issue) : String := s!"{i.kind.name}: {i.display}"

def errors (issues : List Issue) : List Issue := issues.filter isError

def warnings (issues : List Issue) : List Issue := issues.filter isWarning

/-- A recorded issue is logged at its own severity. -/
def log (i : Issue) (j : Journal) : Journal :=
  j.emit i.severity.level "flowsmith.issues" i.kind.name
    [("workflow", .string i.workflow), ("detail", .string i.message),
      ("path", (i.path.map Json.string).getD .null)]

end Issue

end WorkflowForge
