import WorkflowForge.Number.Decimal

/-!
JSON values. The fields of an object keep the order in which they were added; a name is looked up at its first
occurrence. A place below a value is named by the list of field names that leads to it.
-/

namespace WorkflowForge

inductive Json where
  | null
  | bool (b : Bool)
  | int (n : Int)
  | float (x : Double)
  | string (s : String)
  | array (items : List Json)
  | object (fields : List (String × Json))
deriving Inhabited

abbrev Fields := List (String × Json)

namespace Fields

def get? (fields : Fields) (name : String) : Option Json := fields.lookup name

def has (fields : Fields) (name : String) : Bool := fields.any (·.1 == name)

def names (fields : Fields) : List String := fields.map (·.1)

/-- Changes the value under a name, at its first occurrence. -/
def modify (name : String) (f : Json → Json) : Fields → Fields
  | [] => []
  | (key, value) :: rest => if key == name then (key, f value) :: rest else (key, value) :: modify name f rest

/-- Puts a value under a name: in its old place, or last where the name is new. -/
def set (fields : Fields) (name : String) (value : Json) : Fields :=
  if has fields name then modify name (fun _ => value) fields else fields ++ [(name, value)]

/-- The fields with the later of two values under one name in the place of the earlier. -/
def merged (fields : Fields) : Fields := fields.foldl (fun acc (name, value) => set acc name value) []

end Fields

namespace Json

def asObject? : Json → Option Fields
  | .object fields => some fields
  | _ => none

def asString? : Json → Option String
  | .string s => some s
  | _ => none

def isObject (v : Json) : Bool := v.asObject?.isSome

/-- The value under a field of an object. -/
def field? (name : String) : Json → Option Json
  | .object fields => Fields.get? fields name
  | _ => none

/-- The object under a field of an object. -/
def objectField? (v : Json) (name : String) : Option Fields := (v.field? name).bind asObject?

/-- The value at a place. -/
def at? : List String → Json → Option Json
  | [], v => some v
  | name :: rest, v => (v.field? name).bind (at? rest)

/-- The object at a place. -/
def objectAt? (path : List String) (v : Json) : Option Fields := (v.at? path).bind asObject?

/-- Changes the value at a place; nothing changes where there is none. -/
def modifyAt : List String → (Json → Json) → Json → Json
  | [], f, v => f v
  | name :: rest, f, .object fields => .object (Fields.modify name (modifyAt rest f) fields)
  | _ :: _, _, v => v

/-- Adds a field to the object at a place. -/
def addAt (v : Json) (path : List String) (name : String) (value : Json) : Json :=
  v.modifyAt path fun
    | .object fields => .object (fields ++ [(name, value)])
    | other => other

end Json

end WorkflowForge
