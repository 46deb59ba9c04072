import WorkflowForge.Data.Datum
import WorkflowForge.Json.Reader
import WorkflowForge.Text.Casing
import WorkflowForge.Text.Search

/-!
Settings from environment variables. Names are taken in any case; a double underscore leads from a group of settings to
one in it. Lists and groups are written as JSON, and a variable for one setting of a group wins over the variable for
the whole group.
-/

namespace WorkflowForge

/-- Environment variables with their values, a later one of two names that differ only in case standing for both. -/
abbrev Environment := List (String × String)

namespace Environment

/-- The variables with their names in lower case. -/
def lowered (env : Environment) : Environment :=
  env.foldl (fun acc (name, value) =>
    let name := Text.lower name
    if acc.any (·.1 == name) then acc.map fun (n, v) => if n == name then (n, value) else (n, v)
    else acc ++ [(name, value)]) []

/-- What the names of all settings begin with. -/
def start : String := "flowsmith_"

/-- What is wrong with a variable: its text is no JSON. -/
inductive BadVariable where
  | notJson
deriving DecidableEq, Repr, Inhabited

def readJson (s : String) : Except BadVariable Datum :=
  match Json.read s with
  | .ok v => .ok (.ofJson v)
  | .error _ => .error .notJson

/-- Puts a value below the keys that lead to it; a value that is no mapping has nothing below it. -/
def insertBelow : List String → Datum → Datum.Entries → Datum.Entries
  | [], _, entries => entries
  | [key], value, entries => Datum.insert entries (.text key) value
  | key :: rest, value, entries =>
    match Datum.lookup entries key with
    | some (.map inner) => Datum.insert entries (.text key) (.map (insertBelow rest value inner))
    | some _ => entries
    | none => Datum.insert entries (.text key) (.map (insertBelow rest value []))

/-- The keys behind the name of a setting and a double underscore. -/
def keysBelow? (setting name : String) : Option (List String) :=
  let beginning := (start ++ setting ++ "__").toList
  let cs := name.toList
  if beginning.isPrefixOf cs then
    some ((Text.splitFrom ['_', '_'] none 0 (cs.drop beginning.length)).map String.ofList)
  else none

/-- The value of a variable for one setting of a group: JSON where the setting is a list. -/
def partValue (lists : List String) (keys : List String) (value : String) : Except BadVariable Datum :=
  match keys with
  | [key] =>
    if value != "" && lists.any (fun l => key == l || key == start ++ l) then readJson value else .ok (.text value)
  | _ => .ok (.text value)

/-- The settings of a group that have variables of their own. -/
def partsOf (env : Environment) (setting : String) (lists : List String) : Except BadVariable Datum.Entries :=
  env.foldlM (fun entries (name, value) =>
    match keysBelow? setting name with
    | none => .ok entries
    | some keys => do return insertBelow keys (← partValue lists keys value) entries) []

mutual

/-- One mapping laid over another: where both have a mapping under a key the two are laid over each other, and otherwise
the upper value stands. -/
def overlay : List (Datum × Datum) → Datum.Entries → Datum.Entries
  | [], base => base
  | (key, v) :: rest, base =>
    overlay rest (Datum.insert base key (overlayValue v ((base.find? fun (k, _) => Datum.sameKey k key).map (·.2))))

def overlayValue : Datum → Option Datum → Datum
  | .map upper, some (.map base) => .map (overlay upper base)
  | v, _ => v

end

/-- The entries with the keys that are in lower case one of the given names under that name. -/
def withNames (names : List String) (entries : Datum.Entries) : Datum.Entries :=
  entries.foldl (fun acc (key, v) =>
    match key with
    | .text s =>
      let lower := Text.lower s
      Datum.insert acc (.text (if names.contains lower then lower else s)) v
    | key => Datum.insert acc key v) []

/-- A setting that is written as it is. -/
def simple (env : Environment) (setting : String) : Datum.Entries :=
  match env.lookup (start ++ setting) with
  | some value => [(.text setting, .text value)]
  | none => []

/-- A list or a group of settings: a whole value, and the values for parts of it. -/
def compound (env : Environment) (setting : String) (lists : List String) : Except BadVariable (Option Datum) := do
  match env.lookup (start ++ setting) with
  | none =>
    match ← partsOf env setting lists with
    | [] => return none
    | parts => return some (.map parts)
  | some value =>
    match ← readJson value with
    | .null => return none
    | .map entries => return some (.map (overlay (← partsOf env setting lists) entries))
    | v => return some v

/-- A group of settings with the given names. -/
def group (env : Environment) (setting : String) (lists names : List String) : Except BadVariable Datum.Entries := do
  match ← compound env setting lists with
  | none => return []
  | some (.map entries) => return [(.text setting, .map (withNames names entries))]
  | some v => return [(.text setting, v)]

/-- All settings that the environment gives. -/
def settings (env : Environment) : Except BadVariable Datum.Entries := do
  let env := lowered env
  let templatePaths ← compound env "template_paths" []
  let templating ← group env "templating" ["extensions"] ["extensions"]
  let output ← group env "output" [] ["json_indent"]
  return (templatePaths.toList.map fun v => (Datum.text "template_paths", v)) ++ simple env "generation_path" ++
    templating ++ output ++ simple env "verbosity"

end Environment

end WorkflowForge
