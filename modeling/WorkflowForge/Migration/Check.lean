import WorkflowForge.Migration.Model
import WorkflowForge.Workflow.Check

/-!
Reading a migration model from loaded data.
-/

namespace WorkflowForge

open Checked

def Target.check (v : Datum) : Checked Target :=
  let refused := fail (.notAmong "enum" (Target.all.map Target.name)) v
  match v with
  | .text s => match Target.ofName? s with
    | some t => .ok t
    | none => refused
  | _ => refused

def Snippet.check (entries : Datum.Entries) : Checked Snippet := do
  let (resourceType, templateFile, outputPath) ←
    both (required entries "resource_type" nonEmptyText) <| both (required entries "template_file" nonEmptyText) <|
      field entries "output_path" optionalText none
  return ⟨resourceType, templateFile, outputPath⟩

def ResourceTemplate.check (entries : Datum.Entries) : Checked ResourceTemplate := do
  let (resourceType, resourceName, parameters) ←
    both (required entries "resource_type" nonEmptyText) <| both (field entries "resource_name" text "") <|
      field entries "parameters" Checked.properties []
  return ⟨resourceType, resourceName, parameters⟩

/-- A workflow, or none where nothing is given. -/
def Workflow.checkOptional (v : Datum) : Checked (Option Workflow) :=
  match v with
  | .null => .ok none
  | _ => (Workflow.ofDatum v).map some

def ProcessManager.check (entries : Datum.Entries) : Checked ProcessManager := do
  let (name, key, snippets, resources, workflow) ←
    both (required entries "name" nonEmptyText) <| both (field entries "key" text "") <|
      both (field entries "snippets" (listOf (structured "Snippet" Snippet.check)) []) <|
        both (field entries "resources" (listOf (structured "ResourceTemplate" ResourceTemplate.check)) []) <|
          field entries "workflow_model" Workflow.checkOptional none
  return ⟨name, key, snippets, resources, workflow⟩

def Application.check (entries : Datum.Entries) : Checked Application := do
  let (name, processManagers) ←
    both (required entries "name" nonEmptyText)
      (field entries "process_managers" (listOf (structured "ProcessManager" ProcessManager.check)) [])
  return ⟨name, processManagers⟩

def MigrationModel.check (entries : Datum.Entries) : Checked MigrationModel := do
  let (target, applications) ←
    both (field entries "target_environment" Target.check .standard)
      (field entries "applications" (listOf (structured "TargetApplication" Application.check)) [])
  return ⟨target, applications⟩

def MigrationModel.ofDatum (v : Datum) : Checked MigrationModel := structured "MigrationModel" MigrationModel.check v

end WorkflowForge
