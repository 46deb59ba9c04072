import WorkflowForge.Template.Block.Parser
import WorkflowForge.Template.Eval

/-!
Rendering of templates. Blocks are run in order under the names bound so far; a name given a value in a branch stays
bound behind it, one given a value in the body of a loop, a scope or a capture does not.
-/

namespace WorkflowForge.Template

/-- The value of a loop's own name at an item. -/
def loopState (items : List Value) (index : Nat) : Value :=
  let previous := if index == 0 then none else items[index - 1]?
  .loop index items.length 0 (previous.getD (.undefined "there is no previous item"))
    ((items[index + 1]?).getD (.undefined "there is no next item"))

namespace Pipe

def applyAll (env : Env) (pipes : List Pipe) (v : Value) : Outcome Value :=
  pipes.foldlM (fun v p => do Value.filter p.name v (← Expr.evalArgs env {} p.args)) v

end Pipe

namespace Block

/-- The items of a loop that pass its test. -/
def passing (env : Env) (goal : Goal) (asked : Option Expr) (items : List Value) : Outcome (List Value) :=
  match asked with
  | none => return items
  | some e => items.filterM fun v => do return (← e.eval (← env.assign goal v)).isTrue

mutual

/-- Runs a block: the names bound behind it and the text it gives. -/
def run (env : Env) : Block → Outcome (Env × String)
  | .data text => return (env, text)
  | .output e => return (env, (← e.eval env).display)
  | .branch arms otherwise => do
    match ← runArms env arms with
    | some result => return result
    | none => runAll env otherwise
  | .loop goal items asked body otherwise => do
    let all ← (← items.eval env).demandItems
    let chosen ← passing env goal asked all
    if chosen.isEmpty then return (env, (← runAll env otherwise).2)
    let texts ← chosen.zipIdx.mapM fun (v, index) => do
      let inner ← Env.assign (("loop", loopState chosen index) :: env) goal v
      return (← runAll inner body).2
    return (env, String.join texts)
  | .assign goal e => return (← env.assign goal (← e.eval env), "")
  | .capture goal pipes body => do
    let text := (← runAll env body).2
    return (← env.assign goal (← Pipe.applyAll env pipes (.text text)), "")
  | .scope bindings body => do
    let inner ← bindings.foldlM (fun acc (goal, e) => do acc.assign goal (← e.eval env)) env
    return (env, (← runAll inner body).2)
  | .filtered pipes body => do
    let text := (← runAll env body).2
    return (env, (← Pipe.applyAll env pipes (.text text)).display)

/-- Runs the first arm whose test holds. -/
def runArms (env : Env) : List (Expr × List Block) → Outcome (Option (Env × String))
  | [] => return none
  | (asked, body) :: rest => do
    if (← asked.eval env).isTrue then return some (← runAll env body) else runArms env rest

def runAll (env : Env) : List Block → Outcome (Env × String)
  | [] => return (env, "")
  | b :: rest => do
    let (env, text) ← run env b
    let (env, more) ← runAll env rest
    return (env, text ++ more)

end

end Block

/-- The text of a template under the given names. -/
def render (source : String) (env : Env) : Outcome String := do
  match Block.parse source with
  | .error message => throw (.template message)
  | .ok blocks =>
    match Block.checkAll false blocks with
    | .error message => throw (.template message)
    | .ok () => return (← Block.runAll env blocks).2

end WorkflowForge.Template
