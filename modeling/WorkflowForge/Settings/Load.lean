import WorkflowForge.Files.Disk
import WorkflowForge.Settings.Environment
import WorkflowForge.Settings.Model
import WorkflowForge.Yaml.Load

/-!
Loading the settings. The environment is laid over the project's file and that over the user's file, setting by setting;
what none of them gives has its default.
-/

namespace WorkflowForge

namespace Settings

def logger : String := "flowsmith.config"

/-- Why settings are refused: a file is no YAML, or a setting has a value that it cannot have. -/
inductive Refusal where
  | badYaml (path : Path)
  | invalid (v : Violation)
deriving Inhabited

namespace Refusal

def message : Refusal → String
  | .badYaml path => s!"Invalid YAML in {path.toText}"
  | .invalid v => s!"Invalid configuration: {v.complaint.message}"

/-- The setting that is to blame, where it is known. -/
def setting? : Refusal → Option String
  | .badYaml _ => none
  | .invalid v => some v.placeText

/-- The value it was given. -/
def value : Refusal → Datum
  | .badYaml _ => .null
  | .invalid v => v.input

end Refusal

/-- Why loading stops. -/
inductive Stop where
  | refused (r : Refusal)
  | disk (e : DiskError)
  | yaml (m : Yaml.Mistake)
  | badVariable (b : Environment.BadVariable)
  /-- A file holds something else than settings. -/
  | notSettings
  /-- A file holds a list or a set, or settings under names that are no texts. -/
  | notNamed
deriving Inhabited

/-- Whether data in a file counts as some. -/
def isSomething : Datum → Bool
  | .null => false
  | .bool b => b
  | .int n => n != 0
  | .float x => x.toInt? != some 0
  | .text s => s != ""
  | .bytes b => !b.isEmpty
  | .list items | .set items => !items.isEmpty
  | .map entries => !entries.isEmpty
  | .date _ | .moment _ | .cycle => true

/-- The data of a settings file; a file that is missing, or that holds nothing, gives no settings. -/
def sourceData (disk : Disk) (path : Path) (j : Journal) : Except Stop Datum × Journal :=
  if !disk.isThere path then (.ok (.map []), j)
  else
    match disk.readText path with
    | .error e => (.error (.disk e), j)
    | .ok s =>
      match Yaml.load s with
      | .error .malformed => (.error (.refused (.badYaml path)), j)
      | .error m => (.error (.yaml m), j)
      | .ok .null =>
        (.ok (.map []), j.emit .warning logger s!"Config file {path.toText} is empty, using defaults." [])
      | .ok d => (.ok (if isSomething d then d else .map []), j)

/-- What data of a settings file gives under a name: no answer where the data cannot be asked for it. -/
def fieldOf (d : Datum) (name : String) : Option Datum :=
  match d with
  | .map entries => some ((Datum.lookup entries name).getD .null)
  | .list items | .set items => if items.any (Datum.sameKey (.text name)) then none else some .null
  | .text s => if (Text.find? name.toList s.toList).isSome then none else some .null
  | _ => none

/-- Lays settings over the data of a file. -/
def layOver (upper : Datum.Entries) : Datum → Except Stop Datum.Entries
  | .map base => .ok (Environment.overlay upper base)
  | .list _ | .set _ => .error (if upper.isEmpty then .notSettings else .notNamed)
  | _ => .error .notSettings

/-- The settings of all sources in one mapping. -/
def merge (environment : Datum.Entries) (project user : Datum) : Except Stop Datum.Entries := do
  let entries ← layOver (← layOver environment project) user
  if entries.all fun (key, _) => (match key with | .text _ => true | _ => false) then return entries
  else throw .notNamed

/-- Logs the template paths that are not there. -/
def logMissing (disk : Disk) (paths : List Path) (j : Journal) : Journal :=
  paths.foldl (fun j p =>
    if disk.isDirectory p then j
    else j.emit .warning logger
      s!"Configured template path does not exist: {p.toText}. Snippets will not be found there." []) j

/-- Accepts merged settings. -/
def accept (disk : Disk) (entries : Datum.Entries) (j : Journal) : Except Stop Settings × Journal :=
  let j := match checkTemplatePaths entries with
    | .ok paths => logMissing disk paths j
    | .error _ => j
  match check entries with
  | .ok settings => (.ok settings, j)
  | .error violations => (.error (.refused (.invalid (violations.headD default))), j)

def projectFile (disk : Disk) : Path := (Path.mk 1 disk.workingDirectory).below "flowsmith.yaml"

def userFile (disk : Disk) : Path := (Path.mk 1 disk.home).below ".config/flowsmith/config.yaml"

/-- The settings that the environment and the two files give. -/
def fromSources (disk : Disk) (env : Environment) (project : Path) (j : Journal) : Except Stop Settings × Journal :=
  match sourceData disk project j with
  | (.error stop, j) => (.error stop, j)
  | (.ok project, j) =>
    match sourceData disk (userFile disk) j with
    | (.error stop, j) => (.error stop, j)
    | (.ok user, j) =>
      match env.settings with
      | .error b => (.error (.badVariable b), j)
      | .ok environment =>
        match merge environment project user with
        | .error stop => (.error stop, j)
        | .ok entries => accept disk entries j

/-- What lasts from one load to the next: the log, and the file that stands in for the project's own during a load. -/
structure Desk where
  journal : Journal
  projectOverride : Option Path
deriving Inhabited

/-- A step of loading; a step that fails leaves the desk as it was at the failure. -/
abbrev Loading := ExceptT Stop (StateM Desk)

/-- Gives a result, with the log that has come about. -/
def conclude (result : Except Stop Settings) (j : Journal) : Loading Settings := do
  modify fun desk => { desk with journal := j }
  match result with
  | .ok settings => return settings
  | .error stop => throw stop

/-- Builds the settings with the project's file that is in force. -/
def build (disk : Disk) (env : Environment) : Loading Settings := do
  let desk ← get
  let (result, j) := fromSources disk env (desk.projectOverride.getD (projectFile disk)) desk.journal
  conclude result j

/-- Loads the settings, with the project's file at its own place unless another is given. -/
def loadAt (disk : Disk) (env : Environment) (path : Option Path) : Loading Settings := do
  let path := path.getD (projectFile disk)
  if !disk.isThere path then
    modify fun desk =>
      { desk with journal := desk.journal.emit .info logger "No project configuration found, using defaults." [] }
  modify fun desk => { desk with projectOverride := some path }
  try build disk env
  finally modify fun desk => { desk with projectOverride := none }

/-- Loads the settings and nothing else. -/
def load (disk : Disk) (env : Environment) (path : Option Path) (j : Journal) : Except Stop Settings × Journal :=
  let (result, desk) := (loadAt disk env path).run.run ⟨j, none⟩
  (result, desk.journal)

end Settings

end WorkflowForge
