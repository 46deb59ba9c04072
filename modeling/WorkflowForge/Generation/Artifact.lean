/-!
The documents generated for a process manager, in the order in which they are built.
-/

namespace WorkflowForge

inductive ArtifactKind where
  | definition
  | parameters
  | localParameters
  | connections
  | appSettings
  | localAppSettings
deriving DecidableEq, Repr, Inhabited

namespace ArtifactKind

def all : List ArtifactKind := [definition, parameters, localParameters, connections, appSettings, localAppSettings]

def name : ArtifactKind → String
  | .definition => "definition"
  | .parameters => "parameters"
  | .localParameters => "local_parameters"
  | .connections => "connections"
  | .appSettings => "app_settings"
  | .localAppSettings => "local_app_settings"

/-- The element kind under which the skeleton of a document is registered. -/
def elementKind : ArtifactKind → String
  | .definition => "workflowdefinition"
  | .parameters => "workflowparameters"
  | .localParameters => "workflowlocalparameters"
  | .connections => "workflowconnections"
  | .appSettings => "workflowappsettings"
  | .localAppSettings => "workflowlocalappsettings"

/-- The parameter of a resource template that says where a document is written. -/
def outputParameter : ArtifactKind → String
  | .definition => "workflowDefinitionFile"
  | .parameters => "workflowParametersFile"
  | .localParameters => "workflowLocalParametersFile"
  | .connections => "workflowConnectionsFile"
  | .appSettings => "workflowAppSettingsFile"
  | .localAppSettings => "workflowLocalAppSettingsFile"

/-- Whether anything is added to the skeleton. -/
def isPopulated : ArtifactKind → Bool
  | .definition | .parameters | .localParameters => true
  | .connections | .appSettings | .localAppSettings => false

end ArtifactKind

end WorkflowForge
