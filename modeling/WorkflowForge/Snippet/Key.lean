import WorkflowForge.Text.Casing

/-!
Snippet keys: the resource types under which snippets are registered. A key is a family of resources, an element kind
and, for a typed element, its type in lower case.
-/

namespace WorkflowForge

namespace Snippet

def standardFamily : String := "microsoft.workflows.azurelogicapp.standard"

def consumptionFamily : String := "microsoft.workflows.azurelogicapp.consumption"

/-- The key of an element kind in a family; an empty type counts as none. -/
def keyIn (family kind : String) (type : Option String) : String :=
  match type with
  | none => s!"{family}.{kind}"
  | some tag => if tag == "" then s!"{family}.{kind}" else s!"{family}.{kind}.{Text.lower tag}"

def key (kind : String) (type : Option String) : String := keyIn standardFamily kind type

def placeholderKeyIn (family kind : String) : String := keyIn family kind (some "placeholder")

/-- The key of the snippet that stands in for types without one. -/
def placeholderKey (kind : String) : String := placeholderKeyIn standardFamily kind

/-- What the keys below a key begin with. -/
def familyPrefix (key : String) : String := Text.lower key ++ "."

def parameterKey : String := keyIn consumptionFamily "parameter" none

end Snippet

end WorkflowForge
