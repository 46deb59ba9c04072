import WorkflowForge.Assembly.Render
import WorkflowForge.Document.ActionPath

/-!
Handlers convert one activity each. A container's handler also says which collection takes the container's children;
a container without such a collection is skipped with everything in it.
-/

namespace WorkflowForge

structure ContainerHandler where
  name : String
  /-- Converts a container below a scope and gives the scope for its children. -/
  convert : Workshop → Item → Scope → Build (Option Scope)

structure ActivityHandler where
  name : String
  /-- Converts an activity below a scope and says whether an action was added. -/
  convert : Workshop → Item → Scope → Build Bool

/-- What a rendered snippet brought into a collection: its payload, and those names of its actions that were free. -/
structure Contribution where
  payload : Payload
  scope : Scope
  inserted : List String
deriving Inhabited

namespace Contribution

/-- How many actions were inserted. -/
def count (contributions : List Contribution) : Nat := (contributions.flatMap (·.inserted)).length

/-- Where the actions were inserted. -/
def places (c : Contribution) : List (List String) := c.inserted.map fun name => c.scope.location ++ [name]

end Contribution

/-- What the conversion of a container gave: its own contribution, and the scope for its children. -/
structure Opening where
  own : Option Contribution
  scope : Option Scope
deriving Inhabited

namespace Build

/-- Inserts actions one by one, passing over those whose names are taken, and gives the names of the inserted ones. -/
def insertActions (w : Workshop) (scope : Scope) (source : String) : Fields → Build (List String)
  | [] => return []
  | (name, body) :: rest => do
    let added ← add scope name body
    let fields : Fields :=
      [("workflow", .string w.manager.name), ("action", .string name), ("source", .string source),
        ("scope", .string scope.pathText)]
    if added then debug "flowsmith.assembly.handlers.base" "action_added" fields
    else warning "flowsmith.assembly.handlers.base" "duplicate_action_name" fields
    return (if added then [name] else []) ++ (← insertActions w scope source rest)

/-- The path from an action's collection to the collection of its children. -/
def childSegments (payload : Payload) (action : String) : List String :=
  match payload.actionPath with
  | some path => ActionPath.parse path
  | none => [action, "actions"]

/-- The scope for the children of an action; none is an issue. -/
def locateChildren (w : Workshop) (payload : Payload) (action : String) (parent : Scope) : Build (Option Scope) := do
  let segments := childSegments payload action
  match parent.resolve (← get).document segments with
  | some scope => return some scope
  | none =>
    record w .structuralPathNotFound s!"Unable to find the child action collection of '{action}'"
      (some (String.intercalate "." (parent.path ++ segments)))
    return none

/-- The actions of a payload, where there are any. -/
def actionsOf (payload : Option Payload) : Fields := (payload.bind (·.actions)).getD []

/-- The payload of a container that offers an action. -/
def renderContainer (w : Workshop) (item : Item) : Build (Option Payload) := do
  match ← resolve w "activitycontainer" (some item.type) with
  | none => return none
  | some snippet =>
    let payload ← render w (some item) snippet
    if (actionsOf payload).isEmpty then
      debug "flowsmith.assembly.handlers.container" "container_snippet_has_no_actions"
        [("workflow", .string w.manager.name), ("container", .string item.name),
          ("snippet", .string snippet.resourceType)]
      return none
    else return payload

/-- Inserts the container's actions and descends into the first. -/
def openContainer (w : Workshop) (item : Item) (parent : Scope) : Build Opening := do
  debug "flowsmith.assembly.handlers.container" "converting_container"
    [("workflow", .string w.manager.name), ("container", .string item.name), ("type", .string item.type)]
  match ← renderContainer w item with
  | none => return ⟨none, none⟩
  | some payload =>
    match payload.firstAction? with
    | none => return ⟨none, none⟩
    | some (name, _) =>
      let inserted ← insertActions w parent item.name (payload.actions.getD [])
      return ⟨some ⟨payload, parent, inserted⟩, ← locateChildren w payload name parent⟩

def convertContainer (w : Workshop) (item : Item) (parent : Scope) : Build (Option Scope) :=
  return (← openContainer w item parent).scope

/-- The scope for the children of the branch that is taken when no case applies. -/
def locateElse (w : Workshop) (switch : Scope) (name : String) : Build (Option Scope) := do
  match switch.resolve (← get).document ["default", "actions"] with
  | some scope => return some scope
  | none =>
    record w .structuralPathNotFound s!"Switch '{name}' has no default actions for the Else branch"
      (some s!"{switch.pathText}.default.actions")
    return none

/-- Adds the first action of a branch to the cases of a switch. -/
def openCase (w : Workshop) (item : Item) (payload : Payload) (switch : Scope) (name : String)
    (first : String × Json) : Build Opening := do
  match switch.resolve (← get).document ["cases"] with
  | none =>
    record w .structuralPathNotFound s!"Switch '{name}' has no cases for branch '{item.name}'"
      (some s!"{switch.pathText}.cases")
    return ⟨none, none⟩
  | some cases =>
    let added ← add cases first.1 first.2
    let fields : Fields :=
      [("workflow", .string w.manager.name), ("case", .string first.1), ("switch", .string name)]
    if added then debug "flowsmith.assembly.handlers.decision" "case_added" fields
    else warning "flowsmith.assembly.handlers.decision" "duplicate_case_name" fields
    let inserted := if added then [first.1] else []
    return ⟨some ⟨payload, cases, inserted⟩, ← locateChildren w payload first.1 cases⟩

/-- Puts a branch into the one switch of the scope: its case, or the default where it is the other branch. -/
def openBranch (w : Workshop) (item : Item) (parent : Scope) : Build Opening := do
  debug "flowsmith.assembly.handlers.decision" "converting_decision_branch"
    [("workflow", .string w.manager.name), ("branch", .string item.name)]
  match ← renderContainer w item with
  | none => return ⟨none, none⟩
  | some payload =>
    match payload.firstAction? with
    | none => return ⟨none, none⟩
    | some first =>
      match parent.ofType (← get).document "Switch" with
      | [(name, _)] =>
        let switch : Scope := { parent with location := parent.location ++ [name] }
        if item.name == "Else" then return ⟨none, ← locateElse w switch name⟩
        else openCase w item payload switch name first
      | switches =>
        record w .structuralPathNotFound
          s!"Expected exactly one Switch action for decision branch '{item.name}', found {switches.length}"
          (some parent.pathText)
        return ⟨none, none⟩

def convertBranch (w : Workshop) (item : Item) (parent : Scope) : Build (Option Scope) :=
  return (← openBranch w item parent).scope

/-- Renders a snippet for an element and inserts its actions. -/
def contribute (w : Workshop) (item : Item) (scope : Scope) (source : String) (snippet : Snippet) :
    Build (Option Contribution) := do
  let payload ← render w (some item) snippet
  let inserted ← insertActions w scope source (actionsOf payload)
  return payload.map fun p => ⟨p, scope, inserted⟩

/-- Renders every given snippet for an element and inserts the actions of each. -/
def contributeAll (w : Workshop) (item : Item) (scope : Scope) (source : Snippet → String) :
    List Snippet → Build (List Contribution)
  | [] => return []
  | snippet :: rest => do
    let own ← contribute w item scope (source snippet) snippet
    return own.toList ++ (← contributeAll w item scope source rest)

/-- Inserts the actions of the snippet for the activity's type. -/
def activityContributions (w : Workshop) (item : Item) (parent : Scope) : Build (List Contribution) := do
  debug "flowsmith.assembly.handlers.activity" "converting_activity"
    [("workflow", .string w.manager.name), ("activity", .string item.name), ("type", .string item.type)]
  match ← resolve w "activity" (some item.type) with
  | none => return []
  | some snippet => return (← contribute w item parent item.name snippet).toList

def convertActivity (w : Workshop) (item : Item) (parent : Scope) : Build Bool :=
  return Contribution.count (← activityContributions w item parent) != 0

/-- Inserts the actions of all snippets of a channel kind, or treats the activity like any other if there are none. -/
def channelContributions (kind : String) (w : Workshop) (item : Item) (parent : Scope) :
    Build (List Contribution) := do
  let beginning := Snippet.familyPrefix (Snippet.key kind none)
  match w.manager.snippetsBelow beginning with
  | [] =>
    debug "flowsmith.assembly.handlers.channel" "no_channel_snippets"
      [("workflow", .string w.manager.name), ("activity", .string item.name), ("prefix", .string beginning)]
    activityContributions w item parent
  | snippets => contributeAll w item parent (fun _ => item.name) snippets

def convertChannel (kind : String) (w : Workshop) (item : Item) (parent : Scope) : Build Bool :=
  return Contribution.count (← channelContributions kind w item parent) != 0

end Build

namespace ContainerHandler

def standard : ContainerHandler := ⟨"DefaultContainerHandler", Build.convertContainer⟩

def decision : ContainerHandler := ⟨"DecisionBranchHandler", Build.convertBranch⟩

end ContainerHandler

namespace ActivityHandler

def standard : ActivityHandler := ⟨"DefaultActivityHandler", Build.convertActivity⟩

def send : ActivityHandler := ⟨"SendActivityHandler", Build.convertChannel "channel.send"⟩

def receive : ActivityHandler := ⟨"ReceiveActivityHandler", Build.convertChannel "channel.receive"⟩

end ActivityHandler

end WorkflowForge
