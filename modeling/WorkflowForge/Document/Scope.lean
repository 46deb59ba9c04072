import WorkflowForge.Json.Value
import WorkflowForge.Text.Quoted

/-!
Scopes are views of the action collections inside a document. A scope holds no entries of its own: it says where in the
document its collection is, so a change made through one scope shows through every other.
-/

namespace WorkflowForge

structure Scope where
  /-- What the document is called in the paths that are shown. -/
  base : List String
  /-- Where the collection is in the document. -/
  location : List String
deriving DecidableEq, Inhabited, Repr

namespace Scope

/-- The path of a scope as it is shown. -/
def path (s : Scope) : List String := s.base ++ s.location

def pathText (s : Scope) : String :=
  match String.intercalate "." s.path with
  | "" => "$"
  | text => text

def entries (s : Scope) (document : Json) : Fields := (document.objectAt? s.location).getD []

def get? (s : Scope) (document : Json) (name : String) : Option Json := Fields.get? (s.entries document) name

def has (s : Scope) (document : Json) (name : String) : Bool := Fields.has (s.entries document) name

def names (s : Scope) (document : Json) : List String := Fields.names (s.entries document)

/-- Adds an entry, unless the name is taken. -/
def add (s : Scope) (document : Json) (name : String) (body : Json) : Bool × Json :=
  if s.has document name then (false, document) else (true, document.addAt s.location name body)

/-- The scope so many segments below, if every segment leads through an object to an object. -/
def resolve (s : Scope) (document : Json) (segments : List String) : Option Scope :=
  let below : Scope := { s with location := s.location ++ segments }
  if segments.isEmpty || (document.objectAt? below.location).isSome then some below else none

/-- The collection inside an action. -/
def childActions (s : Scope) (document : Json) (name : String) : Option Scope := s.resolve document [name, "actions"]

/-- The entries whose bodies are objects of a type. -/
def ofType (s : Scope) (document : Json) (type : String) : Fields :=
  (s.entries document).filter fun (_, body) => (body.field? "type").bind Json.asString? == some type

/-- A scope as it is shown for debugging. -/
def display (s : Scope) (document : Json) : String :=
  let names := String.intercalate ", " ((s.names document).map Text.quoted)
  s!"ActionScope(path={Text.quoted s.pathText}, names=[{names}])"

end Scope

namespace Document

/-- The definition of a workflow document. -/
def definition? (document : Json) : Option Fields := document.objectField? "definition"

def collection? (document : Json) (name : String) : Option Scope :=
  let location := ["definition", name]
  if (document.objectAt? location).isSome then some ⟨[], location⟩ else none

def triggers? (document : Json) : Option Scope := collection? document "triggers"

def actions? (document : Json) : Option Scope := collection? document "actions"

end Document

end WorkflowForge
