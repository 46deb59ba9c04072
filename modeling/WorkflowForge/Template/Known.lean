import WorkflowForge.Template.Expr

/-!
The filters and tests there are. A template that names another is refused as a whole, except where the name stands in
an arm of a branch or of an inline choice: there it is met only when that arm is taken.
-/

namespace WorkflowForge.Template

def knownFilters : List String :=
  ["abs", "attr", "batch", "capitalize", "center", "count", "d", "default", "dictsort", "e", "escape",
    "filesizeformat", "first", "float", "forceescape", "format", "groupby", "indent", "int", "items", "join", "last",
    "length", "list", "lower", "map", "max", "min", "pprint", "random", "reject", "rejectattr", "replace", "reverse",
    "round", "safe", "select", "selectattr", "slice", "sort", "string", "striptags", "sum", "title", "tojson", "trim",
    "truncate", "unique", "upper", "urlencode", "urlize", "wordcount", "wordwrap", "xmlattr"]

def knownTests : List String :=
  ["!=", "<", "<=", "==", ">", ">=", "boolean", "callable", "defined", "divisibleby", "eq", "equalto", "escaped",
    "even", "false", "filter", "float", "ge", "greaterthan", "gt", "in", "integer", "iterable", "le", "lessthan",
    "lower", "lt", "mapping", "ne", "none", "number", "odd", "sameas", "sequence", "string", "test", "true",
    "undefined", "upper"]

/-- The complaint about a filter, unless it is known or may be met later. -/
def checkFilter (lenient : Bool) (name : String) : Except String Unit :=
  if lenient || knownFilters.contains name then .ok () else .error s!"No filter named {Text.quoted name}."

def checkTest (lenient : Bool) (name : String) : Except String Unit :=
  if lenient || knownTests.contains name then .ok () else .error s!"No test named {Text.quoted name}."

namespace Expr

mutual

/-- The complaint about the first unknown filter or test of an expression. -/
def check (lenient : Bool) : Expr → Except String Unit
  | .literal _ | .name _ => .ok ()
  | .tuple items => checkAll lenient items
  | .list items => checkAll lenient items
  | .mapping entries => checkEntries lenient entries
  | .unary _ e => check lenient e
  | .binary _ left right => do check lenient left; check lenient right
  | .concat items => checkAll lenient items
  | .compare first rest => do check lenient first; checkRelations lenient rest
  | .both left right => do check lenient left; check lenient right
  | .either left right => do check lenient left; check lenient right
  | .negation e => check lenient e
  | .choice _ asked yes no => do check true asked; check true yes; checkOption true no
  | .member e _ => check lenient e
  | .item e index => do check lenient e; check lenient index
  | .slice start stop step => do checkOption lenient start; checkOption lenient stop; checkOption lenient step
  | .call callee args => do check lenient callee; checkArgs lenient args
  | .filter e which args => do checkFilter lenient which; check lenient e; checkArgs lenient args
  | .test e which args => do checkTest lenient which; check lenient e; checkArgs lenient args

def checkAll (lenient : Bool) : List Expr → Except String Unit
  | [] => .ok ()
  | e :: rest => do check lenient e; checkAll lenient rest

def checkEntries (lenient : Bool) : List (Expr × Expr) → Except String Unit
  | [] => .ok ()
  | (key, e) :: rest => do check lenient key; check lenient e; checkEntries lenient rest

def checkRelations (lenient : Bool) : List (Relation × Expr) → Except String Unit
  | [] => .ok ()
  | (_, e) :: rest => do check lenient e; checkRelations lenient rest

def checkOption (lenient : Bool) : Option Expr → Except String Unit
  | none => .ok ()
  | some e => check lenient e

def checkArgs (lenient : Bool) : List (Passing × Expr) → Except String Unit
  | [] => .ok ()
  | (_, e) :: rest => do check lenient e; checkArgs lenient rest

end

end Expr

namespace Pipe

/-- The complaint about the first unknown filter among those of a body, the last of which is looked at first. -/
def checkPipes (pipes : List Pipe) : Except String Unit :=
  pipes.reverse.forM fun p => do checkFilter false p.name; Expr.checkArgs false p.args

end Pipe

namespace Block

mutual

/-- The complaint about the first unknown filter or test of a block, or about a loop that gives a value to the name
under which a loop describes itself. -/
def check (lenient : Bool) : Block → Except String Unit
  | .data _ => .ok ()
  | .output e => e.check lenient
  | .branch arms otherwise => do checkArms arms; checkAll true otherwise
  | .loop goal items test body otherwise => do
    match test with
    | some e => e.check false
    | none => .ok ()
    if (goal.names ++ boundIn body ++ boundIn otherwise).contains "loop" then
      .error "Can't assign to special loop variable in for-loop target"
    items.check lenient
    checkAll false body
    checkAll false otherwise
  | .assign _ e => e.check lenient
  | .capture _ pipes body => do checkAll false body; Pipe.checkPipes pipes
  | .scope bindings body => do bindings.forM fun (_, e) => e.check lenient; checkAll false body
  | .filtered pipes body => do checkAll false body; Pipe.checkPipes pipes

def checkArms : List (Expr × List Block) → Except String Unit
  | [] => .ok ()
  | (test, body) :: rest => do test.check true; checkAll true body; checkArms rest

def checkAll (lenient : Bool) : List Block → Except String Unit
  | [] => .ok ()
  | b :: rest => do check lenient b; checkAll lenient rest

end

end Block

end WorkflowForge.Template
