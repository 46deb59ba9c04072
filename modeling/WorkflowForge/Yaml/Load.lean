import WorkflowForge.Data.Datum
import WorkflowForge.Number.Numeral
import WorkflowForge.Text.Lines
import WorkflowForge.Yaml.Node.Parser

/-!
The data of a YAML text. A mapping takes the entries of the mappings merged into it before its own, so its own win. Of
several mistakes the one nearest to the root is reported, and of those the first.
-/

namespace WorkflowForge.Yaml

/-- A result, or the mistake nearest to the root with its depth. -/
abbrev Built (α : Type) := Except (Nat × Mistake) α

namespace Built

def fail (depth : Nat) (m : Mistake) : Built α := .error (depth, m)

/-- Both results; of two mistakes the nearer to the root, the first where they are equally near. -/
def both : Built α → Built β → Built (α × β)
  | .ok a, .ok b => .ok (a, b)
  | .error e, .ok _ => .error e
  | .ok _, .error e => .error e
  | .error (d, m), .error (e, n) => if e < d then .error (e, n) else .error (d, m)

end Built

namespace Scalar

def removeUnderscores (s : String) : List Char := s.toList.filter (· != '_')

/-- The sign of a number and what stands behind it. -/
def splitSign (cs : List Char) : Except Mistake (Bool × List Char) :=
  match cs with
  | [] => throw .noCharacters
  | '-' :: rest => return (true, rest)
  | '+' :: rest => return (false, rest)
  | cs => return (false, cs)

def intIn (base : Nat) (cs : List Char) : Except Mistake Int :=
  match Numeral.int? base (String.ofList cs) with
  | some n => return n
  | none => throw .badValue

/-- The value of parts that count sixty of the next each. -/
def sexagesimal (parts : List Int) : Int := parts.foldl (fun n d => n * 60 + d) 0

def int (s : String) : Except Mistake Datum := do
  let (negative, cs) ← splitSign (removeUnderscores s)
  let n ← match cs with
    | ['0'] => pure 0
    | '0' :: 'b' :: rest => intIn 2 rest
    | '0' :: 'x' :: rest => intIn 16 rest
    | '0' :: 'o' :: rest => intIn 8 rest
    | '0' :: _ => intIn 8 cs
    | [] => throw .noCharacters
    | cs =>
      if cs.contains ':' then
        let parts ← (Text.splitAt ':' cs).mapM (intIn 10)
        pure (sexagesimal parts)
      else intIn 10 cs
  return .int (if negative then -n else n)

def floatOf (cs : List Char) : Except Mistake Double :=
  match Numeral.float? (String.ofList cs) with
  | some x => return x
  | none => throw .badValue

/-- The value of parts that count sixty of the next each, added up from the last. -/
def floatSexagesimal (parts : List Double) : Float :=
  (parts.reverse.foldl (fun (total, unit) d => (total + d.toFloat * unit, unit * 60.0)) ((0.0 : Float), (1.0 : Float))).1

def float (s : String) : Except Mistake Datum := do
  let (negative, cs) ← splitSign (Text.lowerChars (removeUnderscores s))
  let text := String.ofList cs
  if text == ".nan" then return .float Double.nan
  let x ←
    if text == ".inf" then pure (Double.infinity false)
    else if cs.contains ':' then
      let parts ← (Text.splitAt ':' cs).mapM floatOf
      pure (Double.ofFloat (floatSexagesimal parts))
    else floatOf cs
  return .float (if negative then .ofFloat (-x.toFloat) else x)

def bool (s : String) : Except Mistake Datum :=
  match Text.lower s with
  | "yes" | "true" | "on" => return .bool true
  | "no" | "false" | "off" => return .bool false
  | _ => throw .badWord

/-- The first six digits of a fraction of a second. -/
def microseconds (fraction : List Char) : Nat :=
  let digits := fraction.take 6
  MomentParts.number (digits ++ List.replicate (6 - digits.length) '0')

def offset (zone : Bool × Nat × Nat) : Int :=
  let minutes : Int := zone.2.1 * 60 + zone.2.2
  if zone.1 then -minutes else minutes

def timestamp (s : String) : Except Mistake Datum := do
  match MomentParts.ofChars? s.toList with
  | none => throw .noMoment
  | some parts =>
    let date : Date := ⟨parts.year, parts.month, parts.day⟩
    match parts.time with
    | none => if date.isValid then return .date date else throw .badValue
    | some (hour, minute, second) =>
      let zone := parts.zone.map offset
      let moment : Moment := ⟨date, hour, minute, second, microseconds parts.fraction, zone⟩
      if moment.isValid && (zone.getD 0).natAbs < 1440 then return .moment moment else throw .badValue

def base64Value? (c : Char) : Option Nat :=
  if 'A' ≤ c ∧ c ≤ 'Z' then some (c.toNat - 65)
  else if 'a' ≤ c ∧ c ≤ 'z' then some (c.toNat - 71)
  else if c.isDigit then some (c.toNat + 4)
  else if c == '+' then some 62
  else if c == '/' then some 63
  else none

/-- The bytes of six-bit values, four of which are three bytes. -/
def base64Bytes : List Nat → Option (List UInt8)
  | a :: b :: c :: d :: rest => do
    let n := ((a * 64 + b) * 64 + c) * 64 + d
    return (n / 65536).toUInt8 :: (n / 256 % 256).toUInt8 :: (n % 256).toUInt8 :: (← base64Bytes rest)
  | [a, b, c] => let n := (a * 64 + b) * 64 + c; some [(n / 1024).toUInt8, (n / 4 % 256).toUInt8]
  | [a, b] => some [((a * 64 + b) / 16).toUInt8]
  | [_] => none
  | [] => some []

def binary (s : String) : Except Mistake Datum :=
  let cs := s.toList
  let values := cs.filterMap base64Value?
  let padding := (cs.filter (· == '=')).length
  let isPadded := values.length % 4 == 0 || values.length % 4 + padding ≥ 4
  match base64Bytes values with
  | some bytes => if isPadded && cs.all (·.toNat < 128) then return .bytes bytes else throw .malformed
  | none => throw .malformed

def datum (tag : Tag) (s : String) : Except Mistake Datum :=
  match tag with
  | .null => return .null
  | .bool => bool s
  | .int => int s
  | .float => float s
  | .str => return .text s
  | .timestamp => timestamp s
  | .binary => binary s
  | _ => throw .malformed

end Scalar

namespace Node

def scalarDatum (depth : Nat) (tag : Tag) (s : String) : Built Datum :=
  match Scalar.datum tag s with
  | .ok d => .ok d
  | .error m => .error (depth, m)

/-- The text in a mapping that stands for a scalar. -/
def valueText? : List (Node × Node) → Option String
  | [] => none
  | (key, v) :: rest =>
    match key.tag, v with
    | .value, .scalar _ s => some s
    | _, _ => valueText? rest

/-- A list of pairs from mappings of one entry each. -/
def asPairs (depth : Nat) : List Datum → Built Datum
  | items =>
    let pairs := items.mapM fun
      | .map [(key, v)] => some (Datum.list [key, v])
      | _ => none
    match pairs with
    | some pairs => .ok (.list pairs)
    | none => Built.fail depth .malformed

/-- The mapping of some entries, later ones under a key replacing earlier ones. -/
def mapOf (entries : List (Datum × Datum)) : List (Datum × Datum) :=
  entries.foldl (fun acc (key, v) => Datum.insert acc key v) []

mutual

/-- The data of a node whose own mistakes are at the given depth. -/
def build (depth : Nat) : Node → Built Datum
  | .scalar tag s => scalarDatum depth tag s
  | .cycle => .ok .cycle
  | .sequence tag items =>
    match tag with
    | .seq => do return .list (← buildItems (depth + 1) items)
    | .pairs => do asPairs depth (← buildItems (depth + 1) items)
    | _ => Built.fail depth .malformed
  | .mapping tag entries =>
    match tag with
    | .map => do
      let (merged, own) ← buildEntries (depth + 1) entries
      return .map (mapOf (merged ++ own))
    | .set => do
      let (merged, own) ← buildEntries (depth + 1) entries
      return .set ((mapOf (merged ++ own)).map (·.1))
    | tag =>
      match valueText? entries with
      | some s => scalarDatum depth tag s
      | none => Built.fail depth .malformed

def buildItems (depth : Nat) : List Node → Built (List Datum)
  | [] => .ok []
  | n :: rest => (Built.both (build depth n) (buildItems depth rest)).map fun (d, ds) => d :: ds

/-- The data of a key: a scalar, since nothing else can be found again. -/
def buildKey (depth : Nat) : Node → Built Datum
  | .scalar .value s => .ok (.text s)
  | .scalar tag s => scalarDatum depth tag s
  | _ => Built.fail depth .malformed

/-- The entries merged into a mapping, and its own. -/
def buildEntries (depth : Nat) : List (Node × Node) → Built (List (Datum × Datum) × List (Datum × Datum))
  | [] => .ok ([], [])
  | (key, v) :: rest =>
    if key.tag == .merge then
      (Built.both (buildMerged depth v) (buildEntries depth rest)).map fun (here, merged, own) => (here ++ merged, own)
    else
      let entry := Built.both (buildKey depth key) (build depth v)
      (Built.both entry (buildEntries depth rest)).map fun (e, merged, own) => (merged, e :: own)

/-- The entries of a mapping to be merged, or of a list of them, the first of which wins. -/
def buildMerged (depth : Nat) : Node → Built (List (Datum × Datum))
  | .mapping _ entries => (buildEntries depth entries).map fun (merged, own) => merged ++ own
  | .sequence _ items => buildMergedItems depth items
  | _ => Built.fail depth .malformed

def buildMergedItems (depth : Nat) : List Node → Built (List (Datum × Datum))
  | [] => .ok []
  | .mapping _ entries :: rest =>
    (Built.both (buildEntries depth entries) (buildMergedItems depth rest)).map fun ((merged, own), more) =>
      more ++ (merged ++ own)
  | _ :: _ => Built.fail depth .malformed

end

end Node

/-- The data of a text; a text without content holds the null value. -/
def load (s : String) : Except Mistake Datum := do
  match ← Node.parse s with
  | none => return .null
  | some root =>
    match root.build 0 with
    | .ok d => return d
    | .error (_, m) => throw m

end WorkflowForge.Yaml
