import WorkflowForge.Assembly.Registry
import WorkflowForge.Document.Binding

/-!
Assembly of a tree of activities into a document, and the binding of the result. Each container is converted by its
handler; in the scope that the handler gives come first the pre-built actions of the container's type and then its
children in their order.
-/

namespace WorkflowForge

namespace Build

/-- Inserts the actions of the snippets below the key of a container's type. -/
def prebuiltContributions (w : Workshop) (item : Item) (scope : Scope) : Build (List Contribution) :=
  if item.type == "" then return []
  else
    let beginning := Snippet.familyPrefix (Snippet.key "activitycontainer" (some item.type))
    contributeAll w item scope (·.resourceType) (w.manager.snippetsBelow beginning)

def addPrebuilt (w : Workshop) (item : Item) (scope : Scope) : Build Nat :=
  return Contribution.count (← prebuiltContributions w item scope)

/-- Assembles a container whose children are assembled by the given step. -/
def assembleContainer (w : Workshop) (r : Registry) (item : Item) (parent : Scope) (children : Scope → Build Unit) :
    Build Bool := do
  match ← (r.containerHandler item.type).convert w item parent with
  | none =>
    debug "flowsmith.assembly.assembler" "container_skipped"
      [("workflow", .string w.manager.name), ("container", .string item.name)]
    return false
  | some scope =>
    let count ← addPrebuilt w item scope
    if count != 0 then
      debug "flowsmith.assembly.assembler" "prebuilt_actions_added"
        [("workflow", .string w.manager.name), ("container", .string item.name), ("count", .int count)]
    children scope
    return true

mutual

/-- Assembles one activity of a tree. -/
def assembleActivity (w : Workshop) (r : Registry) (place : Place) (parent : Scope) : Activity → Build Bool
  | .leaf e => (r.activityHandler e.type).convert w (.ofActivity place (.leaf e)) parent
  | .container e activities vars messages =>
    assembleContainer w r (.ofActivity place (.container e activities vars messages)) parent fun scope =>
      assembleActivities w r place scope 0 activities

/-- Assembles the children of the activity at a place, from the one of the given index on. -/
def assembleActivities (w : Workshop) (r : Registry) (place : Place) (scope : Scope) (index : Nat) :
    List Activity → Build Unit
  | [] => return
  | a :: rest => do
    discard (assembleActivity w r (place.child index) scope a)
    assembleActivities w r place scope (index + 1) rest

end

def assembleWorkflow (w : Workshop) (r : Registry) (flow : Workflow) (parent : Scope) : Build Bool :=
  assembleContainer w r (.ofWorkflow flow) parent fun scope =>
    assembleActivities w r .workflow scope 0 flow.activities

/-- Orders the entries of a collection and of all collections in it, and counts the links that were added. -/
def bindActions (s : Scope) : Build Nat := do
  let b ← get
  let entries := s.entries b.document
  let links := Binding.links entries
  set { b with document := b.document.modifyAt s.location fun _ => .object (Binding.bind entries) }
  links.forM fun l =>
    debug "flowsmith.assembly.binder" "action_bound"
      [("action", .string l.action), ("run_after", .string l.runAfter)]
  return links.length

end Build

end WorkflowForge
