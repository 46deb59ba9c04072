import WorkflowForge.Yaml.Tag

/-!
The nodes of a YAML document, with references to named nodes replaced by what they name.
-/

namespace WorkflowForge.Yaml

inductive Node where
  | scalar (tag : Tag) (text : String)
  | sequence (tag : Tag) (items : List Node)
  | mapping (tag : Tag) (entries : List (Node × Node))
  /-- A reference to a node that it stands in. -/
  | cycle
deriving Inhabited

namespace Node

def tag : Node → Tag
  | .scalar t _ => t
  | .sequence t _ => t
  | .mapping t _ => t
  | .cycle => .unknown

end Node

end WorkflowForge.Yaml
