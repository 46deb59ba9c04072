import WorkflowForge.Snippet.Key
import WorkflowForge.Workflow.Model

/-!
The migration model: applications with their process managers, each with the snippets and resources registered for it
and the workflow it is built from. Snippets and resources are found by their resource type, in any case.
-/

namespace WorkflowForge

inductive Target where
  | consumption
  | standard
  | standardLite
deriving DecidableEq, Repr, Inhabited

namespace Target

def name : Target → String
  | .consumption => "consumption"
  | .standard => "standard"
  | .standardLite => "standardlite"

def all : List Target := [consumption, standard, standardLite]

def ofName? (s : String) : Option Target := all.find? (·.name == s)

/-- Whether workflows of the standard family run there. -/
def hostsStandard : Target → Bool
  | .consumption => false
  | .standard | .standardLite => true

end Target

structure Snippet where
  resourceType : String
  templateFile : String
  outputPath : Option String
deriving DecidableEq, Repr, Inhabited

structure ResourceTemplate where
  resourceType : String
  resourceName : String
  parameters : Properties
deriving Inhabited

structure ProcessManager where
  name : String
  key : String
  snippets : List Snippet
  resources : List ResourceTemplate
  workflow : Option Workflow
deriving Inhabited

namespace ProcessManager

/-- The snippets registered under a key, in any case. -/
def snippetsUnder (p : ProcessManager) (key : String) : List Snippet :=
  let wanted := Text.lower key
  p.snippets.filter fun s => Text.lower s.resourceType == wanted

def findSnippet (p : ProcessManager) (key : String) : Option Snippet :=
  let wanted := Text.lower key
  p.snippets.find? fun s => Text.lower s.resourceType == wanted

/-- The snippets whose resource type begins with a text, in any case. -/
def snippetsBelow (p : ProcessManager) (beginning : String) : List Snippet :=
  let wanted := (Text.lower beginning).toList
  p.snippets.filter fun s => wanted.isPrefixOf (Text.lower s.resourceType).toList

def findResource (p : ProcessManager) (type : String) : Option ResourceTemplate :=
  let wanted := Text.lower type
  p.resources.find? fun r => Text.lower r.resourceType == wanted

/-- The snippet for an element of a kind: the one for its type, or else the placeholder of the kind. -/
def resolve (p : ProcessManager) (kind : String) (type : Option String) : Option Snippet :=
  let typed := match type with
    | some tag => if tag == "" then none else p.findSnippet (Snippet.key kind (some tag))
    | none => none
  typed.or (p.findSnippet (Snippet.placeholderKey kind))

end ProcessManager

structure Application where
  name : String
  processManagers : List ProcessManager
deriving Inhabited

structure MigrationModel where
  target : Target
  applications : List Application
deriving Inhabited

end WorkflowForge
