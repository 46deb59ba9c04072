import WorkflowForge.Template.Subject

/-!
Stamps: the numbers that workflow elements carry from their latest rendering. The workflow itself is not changed while
a document is built; what a template sees is the workflow with the stamps given so far put on it.
-/

namespace WorkflowForge

/-- What of an activity is meant: the activity, or one of the declarations that stand in it. -/
inductive Part where
  | whole
  | variableAt (index : Nat)
  | messageAt (index : Nat)
deriving DecidableEq, Repr, Inhabited

/-- Where an element stands: in which tree, below which children, and which part of the activity there. -/
structure Place where
  /-- Zero for the workflow, and another number for each loose activity. -/
  origin : Nat
  path : List Nat
  part : Part
deriving DecidableEq, Repr, Inhabited

namespace Place

def workflow : Place := ⟨0, [], .whole⟩

def child (p : Place) (index : Nat) : Place := { p with path := p.path ++ [index] }

end Place

/-- The stamps given, the latest first. -/
abbrev Stamps := List (Place × Int)

namespace Stamps

def on (s : Stamps) (place : Place) (e : Element) : Element :=
  match s.lookup place with
  | some id => e.stamp id
  | none => e

def onVariables (s : Stamps) (place : Place) (vars : List Variable) : List Variable :=
  vars.zipIdx.map fun (v, i) => { v with element := s.on { place with part := .variableAt i } v.element }

def onMessages (s : Stamps) (place : Place) (messages : List Message) : List Message :=
  messages.zipIdx.map fun (m, i) => { m with element := s.on { place with part := .messageAt i } m.element }

mutual

/-- An activity at a place with the stamps on it and on all inside it. -/
def onActivity (s : Stamps) (place : Place) : Activity → Activity
  | .leaf e => .leaf (s.on place e)
  | .container e activities vars messages =>
    .container (s.on place e) (onActivities s place 0 activities) (s.onVariables place vars)
      (s.onMessages place messages)

def onActivities (s : Stamps) (place : Place) (index : Nat) : List Activity → List Activity
  | [] => []
  | a :: rest => onActivity s (place.child index) a :: onActivities s place (index + 1) rest

end

def onWorkflow (s : Stamps) (w : Workflow) : Workflow :=
  { w with
    element := s.on .workflow w.element
    activities := s.onActivities .workflow 0 w.activities
    vars := s.onVariables .workflow w.vars
    messages := s.onMessages .workflow w.messages }

end Stamps

/-- An element to be rendered, and where it stands. -/
structure Item where
  place : Place
  subject : Template.Subject

namespace Item

/-- The element as a template sees it. -/
def stamped (i : Item) (s : Stamps) : Template.Subject :=
  match i.subject with
  | .activity a => .activity (s.onActivity i.place a)
  | .workflow w => .workflow (s.onWorkflow w)
  | .stored v => .stored { v with element := s.on i.place v.element }
  | .message m => .message { m with element := s.on i.place m.element }
  | other => other

def name (i : Item) : String := (i.subject.element?.map (·.name)).getD ""

def type (i : Item) : String := (i.subject.element?.map (·.type)).getD ""

def ofWorkflow (w : Workflow) : Item := ⟨.workflow, .workflow w⟩

def ofActivity (place : Place) (a : Activity) : Item := ⟨place, .activity a⟩

end Item

mutual

/-- The containers of an activity with their places, a container before those inside it. -/
def Activity.containersAt (place : Place) : Activity → List (Place × Activity)
  | .leaf _ => []
  | .container e activities vars messages =>
    (place, .container e activities vars messages) :: containersAtIn place 0 activities

def Activity.containersAtIn (place : Place) (index : Nat) : List Activity → List (Place × Activity)
  | [] => []
  | a :: rest => Activity.containersAt (place.child index) a ++ containersAtIn place (index + 1) rest

end

namespace Workflow

/-- The variables declared anywhere in a workflow, container by container. -/
def variableItems (w : Workflow) : List Item :=
  (w.root.containersAt .workflow).flatMap fun (place, c) =>
    c.vars.zipIdx.map fun (v, i) => ⟨{ place with part := .variableAt i }, .stored v⟩

def messageItems (w : Workflow) : List Item :=
  (w.root.containersAt .workflow).flatMap fun (place, c) =>
    c.messages.zipIdx.map fun (m, i) => ⟨{ place with part := .messageAt i }, .message m⟩

end Workflow

end WorkflowForge
