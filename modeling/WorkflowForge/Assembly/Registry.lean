import WorkflowForge.Assembly.Handler

/-!
The registry of handlers by activity type. A type that is not registered has the default handler; a type registered
again keeps its place and takes the new handler.
-/

namespace WorkflowForge

inductive Registration where
  | container (type : String) (handler : ContainerHandler)
  | activity (type : String) (handler : ActivityHandler)

structure Registry where
  containers : List (String × ContainerHandler)
  activities : List (String × ActivityHandler)

namespace Registry

def empty : Registry := ⟨[], []⟩

/-- Puts a handler under a type: in its old place, or last where the type is new. -/
def put (type : String) (handler : α) : List (String × α) → List (String × α)
  | [] => [(type, handler)]
  | (t, h) :: rest => if t == type then (t, handler) :: rest else (t, h) :: put type handler rest

def register (r : Registry) : Registration → Registry
  | .container type handler => { r with containers := put type handler r.containers }
  | .activity type handler => { r with activities := put type handler r.activities }

def registerAll (r : Registry) (registrations : List Registration) : Registry := registrations.foldl register r

def containerHandler (r : Registry) (type : String) : ContainerHandler := (r.containers.lookup type).getD .standard

def activityHandler (r : Registry) (type : String) : ActivityHandler := (r.activities.lookup type).getD .standard

def standardRegistrations : List Registration :=
  [.container "DecisionBranch" .decision, .activity "Receive" .receive, .activity "Send" .send]

/-- Decision branches, receiving and sending activities have handlers of their own. -/
def standard : Registry := empty.registerAll standardRegistrations

end Registry

namespace Registration

def log (r : Registration) (j : Journal) : Journal :=
  match r with
  | .container type _ =>
    j.emit .debug "flowsmith.assembly.registry" "container_handler_registered" [("type", .string type)]
  | .activity type _ =>
    j.emit .debug "flowsmith.assembly.registry" "activity_handler_registered" [("type", .string type)]

def logAll (registrations : List Registration) (j : Journal) : Journal := registrations.foldl (fun j r => r.log j) j

end Registration

end WorkflowForge
