import WorkflowForge.Assembly.Render

/-!
Declarations: triggers, variables, messages and parameters. Each is rendered from snippets and added under its name
unless the name is taken.
-/

namespace WorkflowForge

namespace Build

def declarationLogger : String := "flowsmith.assembly.declarations"

def modelItem (w : Workshop) : Option Item := w.manager.workflow.map .ofWorkflow

/-- Adds triggers one by one and counts the added ones. -/
def insertTriggers (w : Workshop) (scope : Scope) (channel : String) : Fields → Build Nat
  | [] => return 0
  | (name, body) :: rest => do
    let added ← add scope name body
    if added then
      debug declarationLogger "trigger_added"
        [("workflow", .string w.manager.name), ("trigger", .string name), ("channel", .string channel)]
    return (if added then 1 else 0) + (← insertTriggers w scope channel rest)

/-- Adds the triggers that each snippet gives for one channel. -/
def triggersFor (w : Workshop) (scope : Scope) (channel : Channel) : List Snippet → Build Nat
  | [] => return 0
  | snippet :: rest => do
    let payload ← render w (modelItem w) snippet
    let added ← insertTriggers w scope channel.element.name ((payload.bind (·.triggers)).getD [])
    return added + (← triggersFor w scope channel rest)

def triggersForAll (w : Workshop) (scope : Scope) (snippets : List Snippet) : List Channel → Build Nat
  | [] => return 0
  | channel :: rest => do
    let added ← triggersFor w scope channel snippets
    return added + (← triggersForAll w scope snippets rest)

/-- Adds the triggers of all channels that start the workflow. -/
def addTriggers (w : Workshop) : Build Nat := do
  let channels := (w.manager.workflow.map (·.activators)).getD []
  if channels.isEmpty then return 0
  let snippets := w.manager.snippetsBelow (Snippet.familyPrefix (Snippet.key "channel.trigger" none))
  if snippets.isEmpty then
    debug declarationLogger "no_trigger_snippets" [("workflow", .string w.manager.name)]
    return 0
  match Document.triggers? (← get).document with
  | none =>
    record w .structuralPathNotFound "Workflow definition has no triggers collection" (some "definition.triggers")
    return 0
  | some scope => triggersForAll w scope snippets channels

/-- Adds declarations one by one and counts the added ones. -/
def insertDeclarations (w : Workshop) (scope : Scope) : Fields → Build Nat
  | [] => return 0
  | (name, body) :: rest => do
    let added ← add scope name body
    let fields : Fields := [("workflow", .string w.manager.name), ("name", .string name)]
    if added then debug declarationLogger "declaration_added" fields
    else warning declarationLogger "duplicate_declaration" fields
    return (if added then 1 else 0) + (← insertDeclarations w scope rest)

/-- A kind of declaration: what its snippets are registered under, the section of a payload that holds it and the
elements of a workflow that are declared that way. -/
structure DeclarationKind where
  name : String
  section_ : Payload → Option Fields
  items : Workflow → List Item

namespace DeclarationKind

def vars : DeclarationKind := ⟨"variable", Payload.vars, Workflow.variableItems⟩

def messages : DeclarationKind := ⟨"message", Payload.messages, Workflow.messageItems⟩

end DeclarationKind

/-- Adds what one snippet declares for an element. -/
def declare (w : Workshop) (k : DeclarationKind) (scope : Scope) (item : Option Item) (snippet : Snippet) :
    Build Nat := do
  let payload ← render w item snippet
  insertDeclarations w scope ((payload.bind k.section_).getD [])

def declareFrom (w : Workshop) (k : DeclarationKind) (scope : Scope) (item : Option Item) : List Snippet → Build Nat
  | [] => return 0
  | snippet :: rest => do
    let added ← declare w k scope item snippet
    return added + (← declareFrom w k scope item rest)

/-- Adds what the placeholder snippet declares for each element. -/
def declareItems (w : Workshop) (k : DeclarationKind) (scope : Scope) (placeholder : Option Snippet) :
    List Item → Build Nat
  | [] => return 0
  | item :: rest => do
    let added ← match placeholder with
      | some snippet => declare w k scope (some item) snippet
      | none =>
        debug declarationLogger "declaration_placeholder_missing"
          [("workflow", .string w.manager.name), ("kind", .string k.name), ("name", .string item.name)]
        pure 0
    return added + (← declareItems w k scope placeholder rest)

/-- Adds all declarations of a kind to the root actions: first those of the kind's own snippets, then those of the
elements of the workflow. -/
def addDeclarations (w : Workshop) (k : DeclarationKind) : Build Nat := do
  match Document.actions? (← get).document with
  | none =>
    record w .structuralPathNotFound s!"Workflow definition has no actions collection for {k.name}s"
      (some "definition.actions")
    return 0
  | some scope =>
    let general ← declareFrom w k scope (modelItem w) (w.manager.snippetsUnder (Snippet.key k.name none))
    match w.manager.workflow with
    | none => return general
    | some flow =>
      let placeholder := w.manager.findSnippet (Snippet.placeholderKey k.name)
      return general + (← declareItems w k scope placeholder (k.items flow))

def addVariables (w : Workshop) : Build Nat := addDeclarations w .vars

def addMessages (w : Workshop) : Build Nat := addDeclarations w .messages

/-- Adds parameters to a skeleton one by one. -/
def insertParameters (w : Workshop) (skeleton : Fields) : Fields → Build (Nat × Fields)
  | [] => return (0, skeleton)
  | (name, value) :: rest => do
    let fields : Fields := [("workflow", .string w.manager.name), ("parameter", .string name)]
    if Fields.has skeleton name then
      warning declarationLogger "duplicate_parameter" fields
      insertParameters w skeleton rest
    else
      debug declarationLogger "parameter_added" fields
      let (added, skeleton) ← insertParameters w (skeleton ++ [(name, value)]) rest
      return (added + 1, skeleton)

def parametersFrom (w : Workshop) (skeleton : Fields) : List Snippet → Build (Nat × Fields)
  | [] => return (0, skeleton)
  | snippet :: rest => do
    let data ← renderJson w (modelItem w) snippet true
    let (added, skeleton) ← insertParameters w skeleton ((data.bind Json.asObject?).getD [])
    let (more, skeleton) ← parametersFrom w skeleton rest
    return (added + more, skeleton)

/-- Adds the parameters that the parameter snippets give to a skeleton. -/
def addParameters (w : Workshop) (skeleton : Fields) : Build (Nat × Fields) := do
  match w.manager.snippetsUnder Snippet.parameterKey with
  | [] =>
    debug declarationLogger "no_parameter_snippets" [("workflow", .string w.manager.name)]
    return (0, skeleton)
  | snippets => parametersFrom w skeleton snippets

end Build

end WorkflowForge
