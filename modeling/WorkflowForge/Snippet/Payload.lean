import WorkflowForge.Json.Value
import WorkflowForge.Text.Blank

/-!
The payload of a rendered snippet: the sections it offers for insertion, and the path it gives for the collection that
takes the children of its action. A section that is not an object is no section, and a blank path is no path.
-/

namespace WorkflowForge

structure Payload where
  actions : Option Fields
  triggers : Option Fields
  vars : Option Fields
  messages : Option Fields
  actionPath : Option String
deriving Inhabited

namespace Payload

def ofJson (v : Json) : Payload where
  actions := v.objectField? "workflowDefinitionAction"
  triggers := v.objectField? "workflowTrigger"
  vars := v.objectField? "workflowDefinitionVariable"
  messages := v.objectField? "workflowDefinitionMessage"
  actionPath := ((v.field? "workflowDefinitionActionPath").bind Json.asString?).filter fun s => !Text.isBlankText s

def firstAction? (p : Payload) : Option (String × Json) := p.actions.bind (·.head?)

end Payload

end WorkflowForge
