import WorkflowForge.Assembly.Assembler
import WorkflowForge.Assembly.Declaration
import WorkflowForge.Generation.Artifact
import WorkflowForge.Generation.Report

/-!
Generation of all documents of a migration model. Issues are collected over the whole run, which fails at its end if
one of them is an error; a snippet that cannot be rendered costs only the document it was needed for. A run can be
cancelled between two process managers.
-/

namespace WorkflowForge

structure Generator where
  templatePaths : List Path
  generationPath : Path
  /-- The suffixes of templates, in lower case. -/
  suffixes : List String
  jsonIndent : Option Nat
  registry : Registry

namespace Generator

def logger : String := "flowsmith.generation.generator"

def workshop (g : Generator) (m : ProcessManager) (resource : Option ResourceTemplate) : Workshop :=
  ⟨m, resource, g.templatePaths, g.generationPath, g.suffixes⟩

/-- Fills the skeleton of a workflow definition: declarations, then the activities, then the order in which they run. -/
def assembleDefinition (g : Generator) (w : Workshop) (skeleton : Json) : Build (Option Json) := do
  modify fun b => { b with document := if skeleton.isObject then skeleton else .object [] }
  match Document.actions? (← get).document with
  | none =>
    Build.record w .structuralPathNotFound "Workflow definition skeleton has no actions collection"
      (some "definition.actions")
    return none
  | some actions =>
    discard (Build.addTriggers w)
    discard (Build.addVariables w)
    discard (Build.addMessages w)
    match w.manager.workflow with
    | some flow => discard (Build.assembleWorkflow w g.registry flow actions)
    | none => pure ()
    let links ← Build.bindActions actions
    Build.debug logger "actions_bound" [("workflow", .string w.manager.name), ("links", .int links)]
    return some (← get).document

/-- The document of a kind from its skeleton. -/
def populate (g : Generator) (w : Workshop) (kind : ArtifactKind) (snippet : Snippet) (skeleton : Json) :
    Build (Option Json) := do
  if kind == .definition then assembleDefinition g w skeleton
  else if kind.isPopulated then
    match skeleton with
    | .object fields => return some (.object (← Build.addParameters w fields).2)
    | _ =>
      Build.record w .structuralPathNotFound s!"The {kind.name} skeleton is not a JSON object"
        (some snippet.templateFile)
      return none
  else return some skeleton

/-- Where a document is written, if the resource template says so. -/
def outputOf? (w : Workshop) (kind : ArtifactKind) : Option String :=
  match (w.resource.map (·.parameters)).bind (Properties.get? · kind.outputParameter) with
  | some (.text s) => if Text.isBlankText s then none else some s
  | _ => none

def destination (g : Generator) (output : String) : Path :=
  g.generationPath.below (Text.replaceChar '\\' '/' output)

/-- The document of a kind and where it is to be written; there is none where something it needs is missing. -/
def draft (g : Generator) (w : Workshop) (kind : ArtifactKind) : Build (Option (Path × Json)) := do
  let key := Snippet.key kind.elementKind none
  match w.manager.findSnippet key with
  | none =>
    Build.warning logger "artifact_snippet_missing"
      [("workflow", .string w.manager.name), ("artifact", .string kind.name), ("snippet", .string key)]
    return none
  | some snippet =>
    match outputOf? w kind with
    | none =>
      Build.record w .missingOutputPath
        s!"Resource template has no '{kind.outputParameter}' parameter for the {kind.name} document"
        (some kind.outputParameter)
      return none
    | some output =>
      match ← Build.renderJson w (Build.modelItem w) snippet true with
      | none => return none
      | some skeleton => return (← populate g w kind snippet skeleton).map fun document => (g.destination output, document)

/-- Writes a document and tells of it. -/
def writeDocument (w : Workshop) (kind : ArtifactKind) (target : Path) (text : String) : Build Unit := do
  Build.onDisk fun d => d.writeText target text
  Build.debug logger "artifact_written"
    [("workflow", .string w.manager.name), ("artifact", .string kind.name), ("path", .string target.toText)]

/-- Builds the document of a kind and writes it, where there is one. -/
def buildArtifact (g : Generator) (w : Workshop) (kind : ArtifactKind) : Build (Option Path) := do
  match ← g.draft w kind with
  | none => return none
  | some (target, document) =>
    writeDocument w kind target (document.text (Layout.ofIndent g.jsonIndent))
    return some target

/-- Builds a document; a snippet that cannot be rendered is an issue. -/
def attemptArtifact (g : Generator) (w : Workshop) (kind : ArtifactKind) : Build (Option Path) :=
  tryCatch (g.buildArtifact w kind) fun
    | .render e => do
      Build.record w .renderFailed e.message (some e.templateFile)
      return none
    | f => throw f

def buildArtifacts (g : Generator) (w : Workshop) : List ArtifactKind → Build (List Path)
  | [] => return []
  | kind :: rest => do
    let written ← g.attemptArtifact w kind
    return written.toList ++ (← buildArtifacts g w rest)

/-- Makes the directory that everything is written below. -/
def prepareDirectory (g : Generator) : Build Unit := do
  if !(← get).disk.isDirectory g.generationPath then
    Build.debug logger "creating_generation_path" [("path", .string g.generationPath.toText)]
    Build.onDisk fun d => d.ensureDirectory g.generationPath

/-- Builds all documents of a process manager that has what they need, and gives the paths written. -/
def buildManager (g : Generator) (m : ProcessManager) : Build (List Path) := do
  let w := g.workshop m none
  if m.snippets.isEmpty then
    Build.warning logger "process_manager_has_no_snippets" [("workflow", .string m.name)]
    return []
  if m.workflow.isNone then
    Build.record w .missingWorkflowModel s!"Process manager '{m.name}' has no workflow model" none
    return []
  if g.templatePaths.isEmpty then
    Build.warning logger "no_template_paths" [("workflow", .string m.name)]
    return []
  g.prepareDirectory
  match m.findResource Snippet.standardFamily with
  | none =>
    Build.warning logger "resource_template_missing"
      [("workflow", .string m.name), ("resource_type", .string Snippet.standardFamily)]
    return []
  | some resource =>
    Build.log .info logger "generating_workflow" [("workflow", .string m.name)]
    g.buildArtifacts (g.workshop m (some resource)) ArtifactKind.all

end Generator

/-- What a run has done so far. -/
structure Progress where
  disk : Disk
  journal : Journal
  /-- How often it was asked whether to stop. -/
  checks : Nat
  issues : List Issue
  written : List Path
  workflows : List String
  /-- The stamps put on each workflow, by the numbers of its application and process manager. -/
  stamps : List ((Nat × Nat) × Stamps)

namespace Progress

def start (disk : Disk) (journal : Journal) (checks : Nat) : Progress := ⟨disk, journal, checks, [], [], [], []⟩

def report (p : Progress) : Report := ⟨p.written, p.issues, p.workflows, false⟩

end Progress

/-- Why a run does not end with a report of success. -/
inductive Stop where
  /-- Errors were found. -/
  | failed (r : Report)
  | cancelled (workflow : String)
  | fault (f : Fault)

abbrev Run := ExceptT Stop (StateM Progress)

namespace Generator

/-- Builds one process manager as part of a run. -/
def runManager (g : Generator) (application : String) (index : Nat × Nat) (m : ProcessManager) : Run Unit := do
  let p ← get
  let context : Fields := [("workflow", .string m.name), ("application", .string application)]
  let bench : Bench := ⟨.null, 0, [], p.issues, p.journal.bind context, p.disk⟩
  let (result, bench) := (g.buildManager m).run bench
  set { p with
    disk := bench.disk
    journal := bench.journal.unbind ["workflow", "application"]
    issues := bench.issues
    written := p.written ++ result.toOption.getD []
    workflows := p.workflows ++ [m.name]
    stamps := p.stamps ++ [(index, bench.stamps)] }
  match result with
  | .ok _ => return
  | .error f => throw (.fault f)

/-- Asks whether to stop before a process manager. -/
def checkCancelled (cancel : Option (Nat → Bool)) (m : ProcessManager) : Run Unit := do
  match cancel with
  | none => return
  | some answers =>
    let p ← get
    set { p with checks := p.checks + 1 }
    if answers p.checks then
      modify fun p =>
        { p with journal := p.journal.emit .warning logger "generation_cancelled" [("workflow", .string m.name)] }
      throw (.cancelled m.name)

def runManagers (g : Generator) (cancel : Option (Nat → Bool)) (application : String) (number : Nat) :
    (index : Nat) → List ProcessManager → Run Unit
  | _, [] => return
  | index, m :: rest => do
    checkCancelled cancel m
    g.runManager application (number, index) m
    runManagers g cancel application number (index + 1) rest

def runApplications (g : Generator) (cancel : Option (Nat → Bool)) : (number : Nat) → List Application → Run Unit
  | _, [] => return
  | number, a :: rest => do
    if a.processManagers.isEmpty then
      modify fun p =>
        { p with journal := p.journal.emit .debug logger "no_workflows_to_generate" [("application", .string a.name)] }
    g.runManagers cancel a.name number 0 a.processManagers
    runApplications g cancel (number + 1) rest

def logCompletion (r : Report) (j : Journal) : Journal :=
  j.emit .info logger "generation_completed"
    [("workflows", .int r.workflows.length), ("files", .int r.written.length), ("errors", .int r.errors.length),
      ("warnings", .int r.warnings.length)]

/-- Generates everything for a model. -/
def generate (g : Generator) (cancel : Option (Nat → Bool)) (model : MigrationModel) : Run Report := do
  if !model.target.hostsStandard then
    modify fun p =>
      { p with journal := p.journal.emit .info logger "target_not_supported" [("target", .string model.target.name)] }
    return ⟨[], [], [], true⟩
  g.runApplications cancel 0 model.applications
  let report := (← get).report
  modify fun p => { p with journal := logCompletion report p.journal }
  if report.isSuccess then return report else throw (.failed report)

end Generator

/-- The model with the stamps of a run on its workflows. -/
def MigrationModel.stamped (model : MigrationModel) (stamps : List ((Nat × Nat) × Stamps)) : MigrationModel :=
  let stampManager (index : Nat × Nat) (m : ProcessManager) : ProcessManager :=
    { m with workflow := m.workflow.map ((stamps.lookup index).getD []).onWorkflow }
  let stampApplication (number : Nat) (a : Application) : Application :=
    { a with processManagers := a.processManagers.zipIdx.map fun (m, index) => stampManager (number, index) m }
  { model with applications := model.applications.zipIdx.map fun (a, number) => stampApplication number a }

end WorkflowForge
