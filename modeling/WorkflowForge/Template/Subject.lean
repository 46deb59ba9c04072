import WorkflowForge.Migration.Model

/-!
The parts of a migration model that a template is given, and how they are shown: each as the name of its kind with its
fields, or as its fields alone.
-/

namespace WorkflowForge.Template

inductive Subject where
  | object (e : Element)
  | channel (c : Channel)
  | stored (v : Variable)
  | message (m : Message)
  | activity (a : Activity)
  | workflow (w : Workflow)
  | snippet (s : Snippet)
  | resource (r : ResourceTemplate)
  | manager (p : ProcessManager)
  | application (a : Application)
  | migration (m : MigrationModel)
deriving Inhabited

namespace Subject

def kind : Subject → String
  | .object _ => "WorkflowObject"
  | .channel _ => "WorkflowChannel"
  | .stored _ => "WorkflowVariable"
  | .message _ => "WorkflowMessage"
  | .activity (.leaf _) => "WorkflowActivity"
  | .activity (.container _ _ _ _) => "WorkflowActivityContainer"
  | .workflow _ => "WorkflowModel"
  | .snippet _ => "Snippet"
  | .resource _ => "ResourceTemplate"
  | .manager _ => "ProcessManager"
  | .application _ => "TargetApplication"
  | .migration _ => "MigrationModel"

/-- The kind with the family it belongs to, as complaints name it. -/
def fullKind (s : Subject) : String :=
  match s with
  | .snippet _ | .resource _ | .manager _ | .application _ | .migration _ => s!"flowsmith.models.migration.{s.kind}"
  | _ => s!"flowsmith.models.workflow.{s.kind}"

/-- The element a part of a workflow is. -/
def element? : Subject → Option Element
  | .object e => some e
  | .channel c => some c.element
  | .stored v => some v.element
  | .message m => some m.element
  | .activity a => some a.element
  | .workflow w => some w.element
  | _ => none

def optionText : Option String → String
  | none => "None"
  | some s => Text.quoted s

def propertiesText (p : Properties) : String := (Datum.map (p.map fun (name, v) => (.text name, v))).displayQuoted

def truthText (b : Bool) : String := if b then "True" else "False"

def listText (items : List String) : String := "[" ++ String.intercalate ", " items ++ "]"

def labelled (sep : String) (fields : List (String × String)) : String :=
  String.intercalate sep (fields.map fun (name, text) => name ++ "=" ++ text)

def named (kind : String) (fields : List (String × String)) : String := kind ++ "(" ++ labelled ", " fields ++ ")"

def elementFields (e : Element) : List (String × String) :=
  [("name", Text.quoted e.name), ("type", Text.quoted e.type), ("key", Text.quoted e.key),
    ("description", optionText e.description), ("properties", propertiesText e.properties)]

def variableFields (v : Variable) : List (String × String) :=
  elementFields v.element ++ [("data_type", optionText v.dataType)]

def messageFields (m : Message) : List (String × String) :=
  elementFields m.element ++ [("message_type", optionText m.messageType)]

def channelFields (c : Channel) : List (String × String) :=
  elementFields c.element ++ [("activator", truthText c.activator), ("channel_type", Text.quoted c.channelType)]

def containerFields (e : Element) (activities : List String) (vars : List Variable) (messages : List Message) :
    List (String × String) :=
  elementFields e ++
    [("activities", listText activities),
      ("variables", listText (vars.map fun v => named "WorkflowVariable" (variableFields v))),
      ("messages", listText (messages.map fun m => named "WorkflowMessage" (messageFields m)))]

mutual

def activityText : Activity → String
  | .leaf e => named "WorkflowActivity" (elementFields e)
  | .container e activities vars messages =>
    named "WorkflowActivityContainer" (containerFields e (activityTexts activities) vars messages)

def activityTexts : List Activity → List String
  | [] => []
  | a :: rest => activityText a :: activityTexts rest

end

def activityFields : Activity → List (String × String)
  | .leaf e => elementFields e
  | .container e activities vars messages => containerFields e (activityTexts activities) vars messages

def workflowFields (w : Workflow) : List (String × String) :=
  containerFields w.element (activityTexts w.activities) w.vars w.messages ++
    [("channels", listText (w.channels.map fun c => named "WorkflowChannel" (channelFields c)))]

def snippetFields (s : Snippet) : List (String × String) :=
  [("resource_type", Text.quoted s.resourceType), ("template_file", Text.quoted s.templateFile),
    ("output_path", optionText s.outputPath)]

def resourceFields (r : ResourceTemplate) : List (String × String) :=
  [("resource_type", Text.quoted r.resourceType), ("resource_name", Text.quoted r.resourceName),
    ("parameters", propertiesText r.parameters)]

def managerFields (p : ProcessManager) : List (String × String) :=
  [("name", Text.quoted p.name), ("key", Text.quoted p.key),
    ("snippets", listText (p.snippets.map fun s => named "Snippet" (snippetFields s))),
    ("resources", listText (p.resources.map fun r => named "ResourceTemplate" (resourceFields r))),
    ("workflow_model", (p.workflow.map fun w => named "WorkflowModel" (workflowFields w)).getD "None")]

def applicationFields (a : Application) : List (String × String) :=
  [("name", Text.quoted a.name),
    ("process_managers", listText (a.processManagers.map fun p => named "ProcessManager" (managerFields p)))]

def targetText (t : Target) : String := s!"<TargetEnvironment.{Text.upper t.name}: {Text.quoted t.name}>"

def migrationFields (m : MigrationModel) : List (String × String) :=
  [("target_environment", targetText m.target),
    ("applications", listText (m.applications.map fun a => named "TargetApplication" (applicationFields a)))]

/-- The fields in their order, each with its text. -/
def fieldTexts : Subject → List (String × String)
  | .object e => elementFields e
  | .channel c => channelFields c
  | .stored v => variableFields v
  | .message m => messageFields m
  | .activity a => activityFields a
  | .workflow w => workflowFields w
  | .snippet s => snippetFields s
  | .resource r => resourceFields r
  | .manager p => managerFields p
  | .application a => applicationFields a
  | .migration m => migrationFields m

def display (s : Subject) : String := labelled " " s.fieldTexts

def displayQuoted (s : Subject) : String := named s.kind s.fieldTexts

end Subject

end WorkflowForge.Template
