import WorkflowForge.Template.Token

/-!
Expressions and blocks of a template, and the names a block binds.
-/

namespace WorkflowForge.Template

inductive Literal where
  | none
  | bool (b : Bool)
  | int (n : Nat)
  | float (x : Double)
  | text (s : String)
deriving DecidableEq, Repr, Inhabited

inductive Unary where
  | negate
  | affirm
deriving DecidableEq, Repr

inductive Binary where
  | add
  | sub
  | mul
  | div
  | floorDiv
  | mod
  | pow
deriving DecidableEq, Repr

inductive Relation where
  | eq
  | ne
  | lt
  | le
  | gt
  | ge
  | isIn
  | notIn
deriving DecidableEq, Repr

/-- How an argument is handed over. -/
inductive Passing where
  | plain
  | named (name : String)
  | spread
  | spreadNamed
deriving DecidableEq, Repr

inductive Expr where
  | literal (l : Literal)
  | name (s : String)
  | tuple (items : List Expr)
  | list (items : List Expr)
  | mapping (entries : List (Expr × Expr))
  | unary (op : Unary) (e : Expr)
  | binary (op : Binary) (left right : Expr)
  | concat (items : List Expr)
  | compare (first : Expr) (rest : List (Relation × Expr))
  | both (left right : Expr)
  | either (left right : Expr)
  | negation (e : Expr)
  /-- The line is that of the beginning, and is named when there is no other choice. -/
  | choice (line : Nat) (test yes : Expr) (no : Option Expr)
  | member (e : Expr) (name : String)
  | item (e index : Expr)
  | slice (start stop step : Option Expr)
  | call (callee : Expr) (args : List (Passing × Expr))
  | filter (e : Expr) (name : String) (args : List (Passing × Expr))
  | test (e : Expr) (name : String) (args : List (Passing × Expr))
deriving Inhabited

namespace Expr

/-- The word for the form of an expression in a complaint about an assignment to it. -/
def form : Expr → String
  | .literal _ => "const"
  | .name _ => "name"
  | .tuple _ => "tuple"
  | .list _ => "list"
  | .mapping _ => "dict"
  | .unary .negate _ => "neg"
  | .unary .affirm _ => "pos"
  | .binary .add _ _ => "add"
  | .binary .sub _ _ => "sub"
  | .binary .mul _ _ => "mul"
  | .binary .div _ _ => "div"
  | .binary .floorDiv _ _ => "floordiv"
  | .binary .mod _ _ => "mod"
  | .binary .pow _ _ => "pow"
  | .concat _ => "concat"
  | .compare _ _ => "compare"
  | .both _ _ => "and"
  | .either _ _ => "or"
  | .negation _ => "not"
  | .choice _ _ _ _ => "condexpr"
  | .member _ _ => "getattr"
  | .item _ _ => "getitem"
  | .slice _ _ _ => "slice"
  | .call _ _ => "call"
  | .filter _ _ _ => "filter"
  | .test _ _ _ => "test"

end Expr

/-- What a loop or an assignment gives values to. -/
inductive Goal where
  | name (s : String)
  | tuple (goals : List Goal)
deriving Inhabited

namespace Goal

mutual

def ofExpr? : Expr → Option Goal
  | .name s => some (.name s)
  | .tuple items => (ofItems? items).map .tuple
  | _ => none

def ofItems? : List Expr → Option (List Goal)
  | [] => some []
  | e :: rest => do return (← ofExpr? e) :: (← ofItems? rest)

end

mutual

def names : Goal → List String
  | .name s => [s]
  | .tuple goals => namesIn goals

def namesIn : List Goal → List String
  | [] => []
  | g :: rest => names g ++ namesIn rest

end

end Goal

/-- A filter with its arguments, without the value it is applied to. -/
structure Pipe where
  name : String
  args : List (Passing × Expr)

inductive Block where
  | data (text : String)
  | output (e : Expr)
  | branch (arms : List (Expr × List Block)) (otherwise : List Block)
  | loop (goal : Goal) (items : Expr) (test : Option Expr) (body otherwise : List Block)
  | assign (goal : Goal) (e : Expr)
  | capture (goal : Goal) (pipes : List Pipe) (body : List Block)
  | scope (bindings : List (Goal × Expr)) (body : List Block)
  | filtered (pipes : List Pipe) (body : List Block)

namespace Block

mutual

/-- The names a block or one inside it gives values to. -/
def bound : Block → List String
  | .data _ => []
  | .output _ => []
  | .branch arms otherwise => boundArms arms ++ boundIn otherwise
  | .loop goal _ _ body otherwise => goal.names ++ boundIn body ++ boundIn otherwise
  | .assign goal _ => goal.names
  | .capture goal _ body => goal.names ++ boundIn body
  | .scope _ body => boundIn body
  | .filtered _ body => boundIn body

def boundArms : List (Expr × List Block) → List String
  | [] => []
  | (_, body) :: rest => boundIn body ++ boundArms rest

def boundIn : List Block → List String
  | [] => []
  | b :: rest => bound b ++ boundIn rest

end

end Block

end WorkflowForge.Template
