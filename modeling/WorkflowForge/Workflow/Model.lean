import WorkflowForge.Data.Datum

/-!
The workflow to be built: a tree of activities, some of them containers of others, with the channels, variables and
messages that are declared along with them. Every element has a name and free properties.
-/

namespace WorkflowForge

abbrev Properties := List (String × Datum)

namespace Properties

def get? (properties : Properties) (name : String) : Option Datum := properties.lookup name

/-- Puts a value under a name: in its old place, or last where the name is new. -/
def set : Properties → String → Datum → Properties
  | [], name, value => [(name, value)]
  | (key, old) :: rest, name, value =>
    if key == name then (key, value) :: rest else (key, old) :: set rest name value

end Properties

structure Element where
  name : String
  type : String
  key : String
  description : Option String
  properties : Properties
deriving Inhabited

namespace Element

/-- The property that carries the number of an element's latest rendering. -/
def stampName : String := "UniqueId"

/-- The stamp of an element, where it is a whole number or a truth value. -/
def uniqueId? (e : Element) : Option Datum :=
  match e.properties.get? stampName with
  | some (.int n) => some (.int n)
  | some (.bool b) => some (.bool b)
  | _ => none

def stamp (e : Element) (id : Int) : Element := { e with properties := e.properties.set stampName (.int id) }

end Element

structure Channel where
  element : Element
  activator : Bool
  channelType : String
deriving Inhabited

structure Variable where
  element : Element
  dataType : Option String
deriving Inhabited

structure Message where
  element : Element
  messageType : Option String
deriving Inhabited

inductive Activity where
  | leaf (element : Element)
  | container (element : Element) (activities : List Activity) (vars : List Variable) (messages : List Message)
deriving Inhabited

namespace Activity

def element : Activity → Element
  | .leaf e => e
  | .container e _ _ _ => e

def isContainer : Activity → Bool
  | .leaf _ => false
  | .container _ _ _ _ => true

def children : Activity → List Activity
  | .leaf _ => []
  | .container _ activities _ _ => activities

def vars : Activity → List Variable
  | .leaf _ => []
  | .container _ _ vars _ => vars

def messages : Activity → List Message
  | .leaf _ => []
  | .container _ _ _ messages => messages

mutual

/-- The containers of a tree, a container before those inside it. -/
def containers : Activity → List Activity
  | .leaf _ => []
  | .container e activities vars messages =>
    .container e activities vars messages :: containersIn activities

def containersIn : List Activity → List Activity
  | [] => []
  | a :: rest => containers a ++ containersIn rest

end

end Activity

structure Workflow where
  element : Element
  activities : List Activity
  vars : List Variable
  messages : List Message
  channels : List Channel
deriving Inhabited

namespace Workflow

/-- The workflow as the container of all its activities. -/
def root (w : Workflow) : Activity := .container w.element w.activities w.vars w.messages

def containers (w : Workflow) : List Activity := w.root.containers

def activators (w : Workflow) : List Channel := w.channels.filter (·.activator)

end Workflow

end WorkflowForge
