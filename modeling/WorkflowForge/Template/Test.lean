import WorkflowForge.Template.Attribute
import WorkflowForge.Template.Known

/-!
The tests of values.
-/

namespace WorkflowForge.Template

namespace Value

def isNumber (v : Value) : Bool := (number? v).isSome

def isIterable (v : Value) : Bool := (items? v).isSome

def isSequence : Value → Bool
  | .undefined _ | .text _ | .safe _ | .list _ | .tuple _ | .mapping _ | .range _ _ _ => true
  | .other (.bytes _) => true
  | _ => false

def isCallable : Value → Bool
  | .undefined _ | .method _ _ | .function _ | .loop _ _ _ _ _ => true
  | _ => false

/-- Whether two values are one and the same, as far as values without identity can be. -/
def isSame : Value → Value → Bool
  | .bool a, .bool b => a == b
  | .bool _, _ | _, .bool _ => false
  | .int m, .int n => m == n
  | .float _, _ | _, .float _ => false
  | .nothing, .nothing => true
  | .text s, .text t => s == t
  | _, _ => false

/-- The remainder of a division, in tests of divisibility. -/
def leaves (v divisor : Value) (rest : Int) : Outcome Bool := return same (← arithmetic .mod v divisor) (.int rest)

def relationTest? : String → Option Relation
  | "==" | "eq" | "equalto" => some .eq
  | "!=" | "ne" => some .ne
  | "<" | "lt" | "lessthan" => some .lt
  | "<=" | "le" => some .le
  | ">" | "gt" | "greaterthan" => some .gt
  | ">=" | "ge" => some .ge
  | "in" => some .isIn
  | _ => Option.none

/-- Whether a value passes a test; one that is not known fails where it is met. -/
def passes (name : String) (v : Value) (a : Args) : Outcome Bool := do
  match relationTest? name with
  | some r =>
    let get ← a.bind ["other"]
    match get "other" with
    | some w => related r v w
    | Option.none => throw .wrongKind
  | Option.none =>
    match name with
    | "divisibleby" =>
      let get ← a.bind ["num"]
      match get "num" with
      | some n => leaves v n 0
      | Option.none => throw .wrongKind
    | "sameas" =>
      let get ← a.bind ["other"]
      match get "other" with
      | some w => return isSame v w
      | Option.none => throw .wrongKind
    | _ =>
      if !knownTests.contains name then throw (.template s!"No test named {Text.quoted name} found.")
      discard (a.bind [])
      match name with
      | "defined" => return v.undefined?.isNone
      | "undefined" => return v.undefined?.isSome
      | "none" => return (v matches .nothing)
      | "boolean" => return (v matches .bool _)
      | "true" => return (v matches .bool true)
      | "false" => return (v matches .bool false)
      | "integer" => return (v matches .int _)
      | "float" => return (v matches .float _)
      | "number" => return v.isNumber
      | "string" => return v.string?.isSome
      | "mapping" => return (v matches .mapping _)
      | "sequence" => return v.isSequence
      | "iterable" => return v.isIterable
      | "callable" => return v.isCallable
      | "escaped" => return (v matches .safe _)
      | "even" => leaves v (.int 2) 0
      | "odd" => leaves v (.int 2) 1
      | "lower" => return isOneCase Text.lowerChars Text.upperChars v.display.toList
      | "upper" => return isOneCase Text.upperChars Text.lowerChars v.display.toList
      | "filter" => return (v.string?.map knownFilters.contains).getD false
      | _ => return (v.string?.map knownTests.contains).getD false

end Value

end WorkflowForge.Template
