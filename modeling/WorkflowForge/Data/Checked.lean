import WorkflowForge.Data.Datum

/-!
Checking the shape of loaded data. A check gives a value, or every violation it found, each with its place; the places
of violations inside a part begin with the step that leads to the part.
-/

namespace WorkflowForge

/-- A step from a collection to one of its parts. -/
inductive Step where
  | key (name : String)
  | index (i : Int)
deriving DecidableEq, Repr, Inhabited

def Step.display : Step → String
  | .key name => name
  | .index i => String.ofList (Json.intText i)

inductive Complaint where
  | missing
  | stringType
  | stringTooShort
  | stringUnicode
  | listType
  | mapType
  | boolType
  | boolParsing
  | modelType (name : String)
  | notAmong (code : String) (choices : List String)
  | intType
  | intParsing
  | intFractional
  | notFinite
  | aboveLimit (limit : Int)
  | belowLimit (limit : Int)
  | pathType
deriving DecidableEq, Repr, Inhabited

namespace Complaint

def code : Complaint → String
  | .missing => "missing"
  | .stringType => "string_type"
  | .stringTooShort => "string_too_short"
  | .stringUnicode => "string_unicode"
  | .listType => "list_type"
  | .mapType => "dict_type"
  | .boolType => "bool_type"
  | .boolParsing => "bool_parsing"
  | .modelType _ => "model_type"
  | .notAmong code _ => code
  | .intType => "int_type"
  | .intParsing => "int_parsing"
  | .intFractional => "int_from_float"
  | .notFinite => "finite_number"
  | .aboveLimit _ => "less_than_equal"
  | .belowLimit _ => "greater_than_equal"
  | .pathType => "path_type"

/-- Quoted choices, with a word before the last. -/
def choicesText : List String → String
  | [] => ""
  | [a] => s!"'{a}'"
  | [a, b] => s!"'{a}' or '{b}'"
  | a :: rest => s!"'{a}', " ++ choicesText rest

def message : Complaint → String
  | .missing => "Field required"
  | .stringType => "Input should be a valid string"
  | .stringTooShort => "String should have at least 1 character"
  | .stringUnicode => "Input should be a valid string, unable to parse raw data as a unicode string"
  | .listType => "Input should be a valid list"
  | .mapType => "Input should be a valid dictionary"
  | .boolType => "Input should be a valid boolean"
  | .boolParsing => "Input should be a valid boolean, unable to interpret input"
  | .modelType name => s!"Input should be a valid dictionary or instance of {name}"
  | .notAmong _ choices => "Input should be " ++ choicesText choices
  | .intType => "Input should be a valid integer"
  | .intParsing => "Input should be a valid integer, unable to parse string as an integer"
  | .intFractional => "Input should be a valid integer, got a number with a fractional part"
  | .notFinite => "Input should be a finite number"
  | .aboveLimit limit => s!"Input should be less than or equal to {limit}"
  | .belowLimit limit => s!"Input should be greater than or equal to {limit}"
  | .pathType => "Input is not a valid path for <class 'pathlib.Path'>"

end Complaint

structure Violation where
  place : List Step
  complaint : Complaint
  /-- What was found there. -/
  input : Datum
deriving Inhabited

def Violation.placeText (v : Violation) : String := String.intercalate "." (v.place.map Step.display)

abbrev Checked (α : Type) := Except (List Violation) α

namespace Checked

variable {α β : Type}

def fail (complaint : Complaint) (input : Datum) : Checked α := .error [⟨[], complaint, input⟩]

/-- Puts a step in front of the place of every violation. -/
def under (step : Step) : Checked α → Checked α
  | .ok a => .ok a
  | .error violations => .error (violations.map fun v => { v with place := step :: v.place })

/-- Both results, or the violations of both. -/
def both : Checked α → Checked β → Checked (α × β)
  | .ok a, .ok b => .ok (a, b)
  | .ok _, .error w => .error w
  | .error v, .ok _ => .error v
  | .error v, .error w => .error (v ++ w)

/-- Applies a check to every item, whose index is the step to it. -/
def items (check : Datum → Checked α) : Int → List Datum → Checked (List α)
  | _, [] => .ok []
  | i, v :: rest => (both (under (.index i) (check v)) (items check (i + 1) rest)).map fun (a, as) => a :: as

/-- A field with a default for when it is missing. -/
def field (entries : Datum.Entries) (name : String) (check : Datum → Checked α) (default : α) : Checked α :=
  match Datum.lookup entries name with
  | none => .ok default
  | some v => under (.key name) (check v)

/-- A field that must be there. -/
def required (entries : Datum.Entries) (name : String) (check : Datum → Checked α) : Checked α :=
  match Datum.lookup entries name with
  | none => under (.key name) (fail .missing (.map entries))
  | some v => under (.key name) (check v)

def text (v : Datum) : Checked String :=
  match v with
  | .text s => .ok s
  | .bytes b =>
    match String.fromUTF8? ⟨b.toArray⟩ with
    | some s => .ok s
    | none => fail .stringUnicode v
  | _ => fail .stringType v

def nonEmptyText (v : Datum) : Checked String :=
  match text v with
  | .ok s => if s == "" then fail .stringTooShort v else .ok s
  | .error violations => .error violations

def optionalText (v : Datum) : Checked (Option String) :=
  match v with
  | .null => .ok none
  | _ => (text v).map some

def isOneOf (choices : List String) (s : String) : Bool := choices.contains (String.ofList (s.toList.map Char.toLower))

/-- A truth value, also as a number or a word. -/
def truth (v : Datum) : Checked Bool :=
  match v with
  | .bool b => .ok b
  | .text s =>
    if isOneOf ["0", "off", "f", "false", "n", "no"] s then .ok false
    else if isOneOf ["1", "on", "t", "true", "y", "yes"] s then .ok true
    else fail .boolParsing v
  | .int n => if n == 0 then .ok false else if n == 1 then .ok true else fail .boolParsing v
  | .float x =>
    match x.toInt? with
    | some 0 => .ok false
    | some 1 => .ok true
    | some _ => fail .boolParsing v
    | none => fail .boolType v
  | _ => fail .boolType v

def listOf (check : Datum → Checked α) (v : Datum) : Checked (List α) :=
  match v with
  | .list vs => items check 0 vs
  | .set vs => items check 0 vs
  | _ => fail .listType v

/-- The step to a mapping's part under a key of any kind. -/
def keyStep : Datum → Step
  | .text s => .key s
  | .int n => .index n
  | .bool b => .index (if b then 1 else 0)
  | v => .key v.displayQuoted

def textEntries : Datum.Entries → Checked (List (String × Datum))
  | [] => .ok []
  | (key, v) :: rest =>
    let name := under (keyStep key) (under (.key "[key]") (text key))
    (both name (textEntries rest)).map fun (name, entries) => (name, v) :: entries

/-- A mapping from texts to anything. -/
def properties (v : Datum) : Checked (List (String × Datum)) :=
  match v with
  | .map entries => textEntries entries
  | _ => fail .mapType v

/-- A mapping read as a structure with a name. -/
def structured (name : String) (check : Datum.Entries → Checked α) (v : Datum) : Checked α :=
  match v with
  | .map entries => check entries
  | _ => fail (.modelType name) v

end Checked

end WorkflowForge
