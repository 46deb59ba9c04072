import WorkflowForge.Assembly.Build
import WorkflowForge.Files.SafePath
import WorkflowForge.Json.Reader
import WorkflowForge.Snippet.File
import WorkflowForge.Snippet.Payload
import WorkflowForge.Template.Render

/-!
Rendering of snippets. A snippet's file is the first of its name on the template paths; it is rendered as a template
if its suffix says so and is taken as it stands otherwise. Every rendering gets the next number, which the rendered
element carries from then on.
-/

namespace WorkflowForge

namespace Workshop

/-- The names a template is given. -/
def environment (w : Workshop) (stamps : Stamps) (snippet : Snippet) (item : Option Item) : Template.Env :=
  let workflow := w.manager.workflow.map stamps.onWorkflow
  let orNothing (s : Option Template.Subject) : Template.Value := (s.map Template.Value.subject).getD .nothing
  [("model", orNothing (workflow.map .workflow)),
    ("process_manager", .subject (.manager { w.manager with workflow := workflow })),
    ("resource_template", orNothing (w.resource.map .resource)),
    ("snippet", .subject (.snippet snippet)),
    ("workflow_object", orNothing (item.map (·.stamped stamps)))]

end Workshop

/-- The text of a template; what the template is to blame for is an error of its file. -/
def renderText (templateFile source : String) (env : Template.Env) : Except Fault String :=
  match Template.render source env with
  | .ok text => .ok text
  | .error (.template message) => .error (.render ⟨templateFile, message⟩)
  | .error f => .error (.template f)

namespace Build

/-- Takes the next number and puts it on the element. -/
def nextId (item : Option Item) : Build Int := do
  let b ← get
  let id := b.ids + 1
  let stamps := match item with
    | some i => (i.place, id) :: b.stamps
    | none => b.stamps
  set { b with ids := id, stamps := stamps }
  return id

/-- Where the rendered text of a snippet is kept for inspection. -/
def inspectionPath (w : Workshop) (snippet : Snippet) (item : Option Item) (source : Path) (id : Int)
    (templated : Bool) : Path :=
  let folder := w.generationPath.below (safePath (snippet.outputPath.getD ""))
  let name := match item with
    | some i => safePath i.name
    | none => "workflow"
  let tail := if templated then source.stem else source.name
  folder.below s!"{id}.{name}.{tail}"

/-- Keeps the rendered text for inspection: a template's result is written, a plain file copied. -/
def keepForInspection (w : Workshop) (snippet : Snippet) (item : Option Item) (source : Path) (text : String) (id : Int)
    (templated : Bool) : Build Unit := do
  let target := inspectionPath w snippet item source id templated
  if templated then onDisk fun d => d.writeText target text
  else onDisk fun d => d.copyFile source target
  debug "flowsmith.snippets.resolver" "snippet_debug_output_written"
    [("snippet", .string snippet.resourceType), ("path", .string target.toText)]

/-- Reports that the file of a snippet is not there, as an issue or in the log alone. -/
def reportMissing (w : Workshop) (snippet : Snippet) (asIssue : Bool) : Build Unit :=
  if asIssue then
    record w .missingSnippet s!"Snippet file '{snippet.templateFile}' was not found on any template path"
      (some snippet.resourceType)
  else
    warning "flowsmith.snippets.resolver" "snippet_file_missing"
      [("workflow", .string w.manager.name), ("template_file", .string snippet.templateFile)]

/-- The text of a snippet's file, rendered if it is a template. -/
def snippetText (w : Workshop) (item : Option Item) (snippet : Snippet) (source : Path) : Build String := do
  let b ← get
  match b.disk.readText source with
  | .error e => throw (.disk e)
  | .ok raw =>
    if Snippet.isTemplate w.suffixes source then
      match renderText snippet.templateFile raw (w.environment b.stamps snippet item) with
      | .ok text => return text
      | .error f => throw f
    else return raw

/-- The JSON value of a text; the null value counts as nothing. -/
def parseRendered (snippet : Snippet) (text : String) : Except Fault (Option Json) :=
  match Json.read text with
  | .ok .null => .ok none
  | .ok v => .ok (some v)
  | .error e => .error (.render ⟨snippet.templateFile, s!"rendered output is not valid JSON: {e.message}"⟩)

/-- Renders a snippet for an element; there is no result where its file is missing or holds the null value. -/
def renderJson (w : Workshop) (item : Option Item) (snippet : Snippet) (asIssue : Bool) :
    Build (Option Json) := do
  let id ← nextId item
  match Snippet.findFile w.templatePaths (← get).disk snippet.templateFile with
  | none =>
    reportMissing w snippet asIssue
    return none
  | some source =>
    modify fun b => { b with journal := Snippet.logFound snippet.templateFile source b.journal }
    let text ← snippetText w item snippet source
    if (snippet.outputPath.getD "") != "" then
      keepForInspection w snippet item source text id (Snippet.isTemplate w.suffixes source)
    match parseRendered snippet text with
    | .ok v => return v
    | .error f => throw f

/-- Renders a snippet and takes the sections it offers. -/
def render (w : Workshop) (item : Option Item) (snippet : Snippet) : Build (Option Payload) :=
  return (← renderJson w item snippet true).map Payload.ofJson

/-- The snippet for an element of a kind; none at all is an issue. -/
def resolve (w : Workshop) (kind : String) (type : Option String) : Build (Option Snippet) := do
  match w.manager.resolve kind type with
  | some snippet => return some snippet
  | none =>
    record w .missingPlaceholder
      s!"No snippet registered for '{Snippet.key kind type}' and no placeholder snippet"
      (some (Snippet.placeholderKey kind))
    return none

end Build

end WorkflowForge
