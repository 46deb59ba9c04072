import WorkflowForge.Assembly.Stamps
import WorkflowForge.Document.Scope
import WorkflowForge.Files.Disk
import WorkflowForge.Issue
import WorkflowForge.Template.Value

/-!
A build and what it works on. The workshop is what stays fixed while the documents of one process manager are built;
the bench is what changes. A step that fails leaves the bench as it was at the failure.
-/

namespace WorkflowForge

structure Workshop where
  manager : ProcessManager
  resource : Option ResourceTemplate
  templatePaths : List Path
  generationPath : Path
  /-- The suffixes of templates, in lower case. -/
  suffixes : List String
deriving Inhabited

structure Bench where
  document : Json
  /-- The number of the latest rendering. -/
  ids : Int
  stamps : Stamps
  issues : List Issue
  journal : Journal
  disk : Disk
deriving Inhabited

/-- A snippet that could not be turned into JSON. -/
structure RenderError where
  templateFile : String
  cause : String
deriving DecidableEq, Repr, Inhabited

def RenderError.message (e : RenderError) : String := s!"Failed to render snippet '{e.templateFile}': {e.cause}"

/-- Why a step of a build fails: a bad snippet, an operation in a template that its values do not allow, or the disk. -/
inductive Fault where
  | render (e : RenderError)
  | template (f : Template.Failure)
  | disk (e : DiskError)
deriving DecidableEq, Repr, Inhabited

abbrev Build := ExceptT Fault (StateM Bench)

namespace Build

def log (level : Level) (logger name : String) (fields : Fields) : Build Unit :=
  modify fun b => { b with journal := b.journal.emit level logger name fields }

def debug (logger name : String) (fields : Fields) : Build Unit := log .debug logger name fields

def warning (logger name : String) (fields : Fields) : Build Unit := log .warning logger name fields

/-- Records an issue of the workflow that is built. -/
def record (w : Workshop) (kind : IssueKind) (message : String) (path : Option String) : Build Unit :=
  let issue : Issue := ⟨kind, w.manager.name, message, path⟩
  modify fun b => { b with issues := b.issues ++ [issue], journal := issue.log b.journal }

/-- Adds an entry through a scope; the answer says whether the name was free. -/
def add (s : Scope) (name : String) (body : Json) : Build Bool := do
  let b ← get
  let (added, document) := s.add b.document name body
  set { b with document := document }
  return added

/-- A step on the disk. -/
def onDisk (step : Disk → Except DiskError Unit × Disk) : Build Unit := do
  let b ← get
  let (result, disk) := step b.disk
  set { b with disk := disk }
  match result with
  | .ok () => return
  | .error e => throw (.disk e)

end Build

end WorkflowForge
