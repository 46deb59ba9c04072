import WorkflowForge.Data.Calendar
import WorkflowForge.Json.Printer
import WorkflowForge.Text.Quoted

/-!
Loaded data: what a model or settings file holds before its shape is checked. Mappings keep their order and may have
keys of any simple kind; numbers that are equal, truth values counting as zero and one, are one key.
-/

namespace WorkflowForge

inductive Datum where
  | null
  | bool (b : Bool)
  | int (n : Int)
  | float (x : Double)
  | text (s : String)
  | date (d : Date)
  | moment (m : Moment)
  | bytes (b : List UInt8)
  | list (items : List Datum)
  | set (items : List Datum)
  | map (entries : List (Datum × Datum))
  /-- A collection met again inside itself. -/
  | cycle
deriving Inhabited

namespace Datum

/-- The number a key counts as. -/
def numeric? : Datum → Option Double
  | .bool b => some (Double.ofInt (if b then 1 else 0))
  | .int n => some (Double.ofInt n)
  | .float x => some x
  | _ => none

def integer? : Datum → Option Int
  | .bool b => some (if b then 1 else 0)
  | .int n => some n
  | .float x => x.toInt?
  | _ => none

/-- Whether two simple data are one key. -/
def sameKey : Datum → Datum → Bool
  | .null, .null => true
  | .text s, .text t => s == t
  | .date d, .date e => d == e
  | .moment m, .moment n => m == n
  | .bytes b, .bytes c => b == c
  | a, b =>
    match integer? a, integer? b with
    | some m, some n => m == n
    | none, none =>
      match a, b with
      | .float x, .float y => x == y && !x.isNaN
      | _, _ => false
    | _, _ => false

/-- Whether a datum can be a key. -/
def isKey : Datum → Bool
  | .list _ | .set _ | .map _ | .cycle => false
  | _ => true

abbrev Entries := List (Datum × Datum)

/-- The value under a name. -/
def lookup (entries : Entries) (name : String) : Option Datum :=
  entries.findSome? fun (key, v) =>
    match key with
    | .text s => if s == name then some v else none
    | _ => none

/-- Puts a value under a key: in its old place, under the old key, or last where the key is new. -/
def insert (entries : Entries) (key value : Datum) : Entries :=
  if entries.any (fun (k, _) => sameKey k key) then
    entries.map fun (k, v) => if sameKey k key then (k, value) else (k, v)
  else entries ++ [(key, value)]

mutual

def ofJson : Json → Datum
  | .null => .null
  | .bool b => .bool b
  | .int n => .int n
  | .float x => .float x
  | .string s => .text s
  | .array items => .list (ofItems items)
  | .object fields => .map (ofFields fields)

def ofItems : List Json → List Datum
  | [] => []
  | v :: rest => ofJson v :: ofItems rest

def ofFields : List (String × Json) → List (Datum × Datum)
  | [] => []
  | (name, v) :: rest => (.text name, ofJson v) :: ofFields rest

end

/-- A key as a field name, for the kinds that have one. -/
def keyName? : Datum → Option String
  | .text s => some s
  | .null => some "null"
  | .bool b => some (if b then "true" else "false")
  | .int n => some (String.ofList (Json.intText n))
  | .float x => some (String.ofList (Json.floatText x))
  | _ => none

mutual

/-- A datum as JSON, unless it holds something that JSON has no word for. -/
def toJson? : Datum → Option Json
  | .null => some .null
  | .bool b => some (.bool b)
  | .int n => some (.int n)
  | .float x => some (.float x)
  | .text s => some (.string s)
  | .list items => (itemsToJson? items).map .array
  | .map entries => (entriesToJson? entries).map .object
  | .date _ | .moment _ | .bytes _ | .set _ | .cycle => none

def itemsToJson? : List Datum → Option (List Json)
  | [] => some []
  | v :: rest => do return (← toJson? v) :: (← itemsToJson? rest)

def entriesToJson? : List (Datum × Datum) → Option (List (String × Json))
  | [] => some []
  | (key, v) :: rest => do return (← keyName? key, ← toJson? v) :: (← entriesToJson? rest)

end

def floatDisplay (x : Double) : String :=
  let sign := if x.isNegative then "-" else ""
  if x.isNaN then "nan"
  else if x.isInfinite then sign ++ "inf"
  else sign ++ String.ofList (Double.magnitudeChars Double.plainStyle x.shortest)

def byteChars (n : UInt8) : List Char :=
  let c := Char.ofNat n.toNat
  if c == '\\' || c == '\'' then ['\\', c]
  else if c == '\n' then ['\\', 'n']
  else if c == '\r' then ['\\', 'r']
  else if c == '\t' then ['\\', 't']
  else if 32 ≤ n.toNat && n.toNat < 127 then [c]
  else '\\' :: 'x' :: Text.hexDigits 2 n.toNat

mutual

/-- A datum as it is shown inside a collection. -/
def displayQuoted : Datum → String
  | .null => "None"
  | .bool b => if b then "True" else "False"
  | .int n => String.ofList (Json.intText n)
  | .float x => floatDisplay x
  | .text s => Text.quoted s
  | .date d => d.displayQuoted
  | .moment m => m.displayQuoted
  | .bytes b => "b'" ++ String.ofList (b.flatMap byteChars) ++ "'"
  | .list items => "[" ++ displayItems items ++ "]"
  | .set [] => "set()"
  | .set items => "\x7b" ++ displayItems items ++ "\x7d"
  | .map entries => "\x7b" ++ displayEntries entries ++ "\x7d"
  | .cycle => "[...]"

def displayItems : List Datum → String
  | [] => ""
  | [v] => displayQuoted v
  | v :: rest => displayQuoted v ++ ", " ++ displayItems rest

def displayEntries : List (Datum × Datum) → String
  | [] => ""
  | [(key, v)] => displayQuoted key ++ ": " ++ displayQuoted v
  | (key, v) :: rest => displayQuoted key ++ ": " ++ displayQuoted v ++ ", " ++ displayEntries rest

end

/-- A datum as it is shown on its own. -/
def display : Datum → String
  | .text s => s
  | .date d => d.display
  | .moment m => m.display
  | v => displayQuoted v

end Datum

end WorkflowForge
