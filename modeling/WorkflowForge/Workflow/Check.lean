import WorkflowForge.Data.Checked
import WorkflowForge.Workflow.Model

/-!
Reading a workflow from loaded data. An activity is a container exactly when its mapping has the key `activities`.
Among the activities of one container the containers are checked first, one after the other, and the first that fails
stands for the whole list; its violations are placed under `activities` without an index.
-/

namespace WorkflowForge

open Checked

def Element.check (entries : Datum.Entries) : Checked Element := do
  let (name, type, key, description, properties) ←
    both (required entries "name" nonEmptyText) <| both (field entries "type" text "") <|
      both (field entries "key" text "") <| both (field entries "description" optionalText none) <|
        field entries "properties" Checked.properties []
  return ⟨name, type, key, description, properties⟩

def Channel.check (entries : Datum.Entries) : Checked Channel := do
  let (element, activator, channelType) ←
    both (Element.check entries) <| both (field entries "activator" truth false) <| field entries "channel_type" text ""
  return ⟨element, activator, channelType⟩

def Variable.check (entries : Datum.Entries) : Checked Variable := do
  let (element, dataType) ← both (Element.check entries) (field entries "data_type" optionalText none)
  return ⟨element, dataType⟩

def Message.check (entries : Datum.Entries) : Checked Message := do
  let (element, messageType) ← both (Element.check entries) (field entries "message_type" optionalText none)
  return ⟨element, messageType⟩

def checkVariables (entries : Datum.Entries) : Checked (List Variable) :=
  field entries "variables" (listOf (structured "WorkflowVariable" Variable.check)) []

def checkMessages (entries : Datum.Entries) : Checked (List Message) :=
  field entries "messages" (listOf (structured "WorkflowMessage" Message.check)) []

def checkChannels (entries : Datum.Entries) : Checked (List Channel) :=
  field entries "channels" (listOf (structured "WorkflowChannel" Channel.check)) []

namespace Activity

def checkLeaf (v : Datum) : Checked Activity :=
  structured "WorkflowActivity" (fun entries => (Element.check entries).map Activity.leaf) v

/-- A container whose activities were checked already. -/
def checkContainer (entries : Datum.Entries) (activities : Checked (List Activity)) : Checked Activity := do
  let (element, activities, vars, messages) ←
    both (Element.check entries) <| both (under (.key "activities") activities) <|
      both (checkVariables entries) (checkMessages entries)
  return .container element activities vars messages

/-- Checks the leaves among the children, next to containers that were checked already. -/
def checkLeaves : Int → List (Activity ⊕ Datum) → Checked (List Activity)
  | _, [] => .ok []
  | i, .inl a :: rest => (checkLeaves (i + 1) rest).map (a :: ·)
  | i, .inr v :: rest =>
    (both (under (.index i) (checkLeaf v)) (checkLeaves (i + 1) rest)).map fun (a, as) => a :: as

mutual

/-- The children of a container; those that are containers themselves are checked on the way. -/
def classify : List Datum → Checked (List (Activity ⊕ Datum))
  | [] => .ok []
  | v :: rest => do
    let first ← classifyOne v
    let others ← classify rest
    return first :: others

def classifyOne : Datum → Checked (Activity ⊕ Datum)
  | .map entries =>
    match activitiesIn entries with
    | none => .ok (.inr (.map entries))
    | some activities => (checkContainer entries activities).map .inl
  | v => .ok (.inr v)

/-- The activities under the key `activities`, if the key is there. -/
def activitiesIn : List (Datum × Datum) → Option (Checked (List Activity))
  | [] => none
  | (.text name, v) :: rest => if name == "activities" then some (checkList v) else activitiesIn rest
  | _ :: rest => activitiesIn rest

def checkList : Datum → Checked (List Activity)
  | .list items =>
    match classify items with
    | .ok children => checkLeaves 0 children
    | .error violations => .error violations
  | v => listOf checkLeaf v

end

/-- The activities of a container, none if the key is missing. -/
def checkActivities (entries : Datum.Entries) : Checked (List Activity) := (activitiesIn entries).getD (.ok [])

/-- A container, whether or not it has the key `activities`. -/
def checkAsContainer (entries : Datum.Entries) : Checked Activity := checkContainer entries (checkActivities entries)

end Activity

def Workflow.check (entries : Datum.Entries) : Checked Workflow := do
  let (element, activities, vars, messages, channels) ←
    both (Element.check entries) <| both (under (.key "activities") (Activity.checkActivities entries)) <|
      both (checkVariables entries) <| both (checkMessages entries) (checkChannels entries)
  return ⟨element, activities, vars, messages, channels⟩

def Workflow.ofDatum (v : Datum) : Checked Workflow := structured "WorkflowModel" Workflow.check v

end WorkflowForge
