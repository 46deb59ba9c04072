import WorkflowForge.Template.Filter

/-!
The value of an expression under the names bound around it.
-/

namespace WorkflowForge.Template

/-- Bound names, the innermost first. -/
abbrev Env := List (String × Value)

namespace Env

def get (env : Env) (name : String) : Value :=
  match env.lookup name with
  | some v => v
  | none =>
    if Value.globals.contains name then .function name else .undefined s!"{Text.quoted name} is undefined"

mutual

/-- Gives a value to a name, or the items of a value to as many goals. -/
def assign (env : Env) : Goal → Value → Outcome Env
  | .name s, v => return (s, v) :: env
  | .tuple goals, v => do
    match v.items? with
    | none => throw .wrongKind
    | some items => if items.length == goals.length then assignAll env goals items else throw .wrongValue

def assignAll (env : Env) : List Goal → List Value → Outcome Env
  | g :: goals, v :: items => do assignAll (← assign env g v) goals items
  | _, _ => return env

end

end Env

namespace Literal

def value : Literal → Value
  | .none => .nothing
  | .bool b => .bool b
  | .int n => .int n
  | .float x => .float x
  | .text s => .text s

end Literal

namespace Args

/-- Adds one more argument. -/
def pass (a : Args) (passing : Passing) (v : Value) : Outcome Args := do
  match passing with
  | .plain => return { a with plain := a.plain ++ [v] }
  | .named name =>
    if a.named.any (·.1 == name) then throw .wrongKind else return { a with named := a.named ++ [(name, v)] }
  | .spread => return { a with plain := a.plain ++ (← v.demandItems) }
  | .spreadNamed =>
    match v with
    | .mapping entries =>
      let named ← entries.mapM fun p =>
        match p.1.string? with
        | some name => pure (name, p.2)
        | none => throw .wrongKind
      if named.any fun (name, _) => a.named.any (·.1 == name) then throw .wrongKind
      return { a with named := a.named ++ named }
    | _ => throw .wrongKind

end Args

/-- What an inline choice gives that has no other side. -/
def noOtherSide (line : Nat) : Value :=
  .undefined s!"the inline if-expression on line {line} evaluated to false and no else section was defined."

namespace Expr

mutual

def eval (env : Env) : Expr → Outcome Value
  | .literal l => return l.value
  | .name s => return env.get s
  | .tuple items => return .tuple (← evalAll env items)
  | .list items => return .list (← evalAll env items)
  | .mapping entries => return .mapping (← evalEntries env [] entries)
  | .unary op e => do (← eval env e).signed op
  | .binary op left right => do
    let a ← eval env left
    let b ← eval env right
    Value.arithmetic op a b
  | .concat items => return .text (String.join ((← evalAll env items).map Value.display))
  | .compare first rest => do
    let v ← eval env first
    return .bool (← evalRelations env v rest)
  | .both left right => do
    let v ← eval env left
    if v.isTrue then eval env right else return v
  | .either left right => do
    let v ← eval env left
    if v.isTrue then return v else eval env right
  | .negation e => return .bool !(← eval env e).isTrue
  | .choice line asked yes no => do
    if (← eval env asked).isTrue then eval env yes else return (← evalOption env no).getD (noOtherSide line)
  | .member e which => do (← eval env e).member which
  | .item e (.slice start stop step) => do
    let v ← eval env e
    let start ← evalOption env start
    let stop ← evalOption env stop
    let step ← evalOption env step
    v.slice (start.getD .nothing) (stop.getD .nothing) (step.getD .nothing)
  | .item e index => do
    let v ← eval env e
    v.item (← eval env index)
  | .slice _ _ _ => throw .wrongKind
  | .call callee args => do
    let f ← eval env callee
    f.call (← evalArgs env {} args)
  | .filter e which args => do
    let v ← eval env e
    Value.filter which v (← evalArgs env {} args)
  | .test e which args => do
    let v ← eval env e
    return .bool (← Value.passes which v (← evalArgs env {} args))

def evalAll (env : Env) : List Expr → Outcome (List Value)
  | [] => return []
  | e :: rest => return (← eval env e) :: (← evalAll env rest)

def evalEntries (env : Env) (found : List (Value × Value)) : List (Expr × Expr) → Outcome (List (Value × Value))
  | [] => return found
  | (key, e) :: rest => do
    let k ← eval env key
    let v ← eval env e
    if !k.isKey then throw .wrongKind
    evalEntries env (Value.insert found k v) rest

/-- Whether each value is related to the one before it; what follows a failure is not looked at. -/
def evalRelations (env : Env) (left : Value) : List (Relation × Expr) → Outcome Bool
  | [] => return true
  | (r, e) :: rest => do
    let right ← eval env e
    if ← Value.related r left right then evalRelations env right rest else return false

def evalOption (env : Env) : Option Expr → Outcome (Option Value)
  | none => return none
  | some e => return some (← eval env e)

def evalArgs (env : Env) (a : Args) : List (Passing × Expr) → Outcome Args
  | [] => return a
  | (passing, e) :: rest => do
    let v ← eval env e
    evalArgs env (← a.pass passing v) rest

end

end Expr

end WorkflowForge.Template
