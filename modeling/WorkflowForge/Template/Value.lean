import WorkflowForge.Template.Subject

/-!
The values of template expressions, whether they count as true, and how they are shown: on their own, and inside a
collection. A value that is not defined shows as nothing; most uses of it fail with its message.
-/

namespace WorkflowForge.Template

inductive Value where
  | undefined (message : String)
  | nothing
  | bool (b : Bool)
  | int (n : Int)
  | float (x : Double)
  | text (s : String)
  /-- Text that is safe to stand in a page as it is. -/
  | safe (s : String)
  | list (items : List Value)
  | tuple (items : List Value)
  | mapping (entries : List (Value × Value))
  | range (start stop step : Int)
  /-- The keys, values or entries of a mapping. -/
  | view (kind : String) (items : List Value)
  /-- Items that come one by one and have no number. -/
  | stream (items : List Value)
  /-- Loaded data of a kind templates do nothing with. -/
  | other (d : Datum)
  | subject (s : Subject)
  /-- Where a loop stands: the items passed, the number of all, the loops around it and the neighbours. -/
  | loop (index length depth : Nat) (previous next : Value)
  | method (self : Value) (name : String)
  | function (name : String)
deriving Inhabited

/-- Why a template cannot be rendered: a complaint about the template, or an operation that failed on its values. -/
inductive Failure where
  | template (message : String)
  | wrongKind
  | zeroDivision
  | wrongValue
  | tooLarge
  | noAttribute
deriving DecidableEq, Repr, Inhabited

abbrev Outcome := Except Failure

namespace Value

mutual

def ofDatum : Datum → Value
  | .null => .nothing
  | .bool b => .bool b
  | .int n => .int n
  | .float x => .float x
  | .text s => .text s
  | .date d => .other (.date d)
  | .moment m => .other (.moment m)
  | .bytes b => .other (.bytes b)
  | .list items => .list (ofItems items)
  | .set items => .view "set" (ofItems items)
  | .map entries => .mapping (ofEntries entries)
  | .cycle => .other .cycle

def ofItems : List Datum → List Value
  | [] => []
  | d :: rest => ofDatum d :: ofItems rest

def ofEntries : List (Datum × Datum) → List (Value × Value)
  | [] => []
  | (key, d) :: rest => (ofDatum key, ofDatum d) :: ofEntries rest

end

def ofProperties (p : Properties) : Value := .mapping (p.map fun (name, d) => (.text name, ofDatum d))

def ofOption : Option String → Value
  | Option.none => .nothing
  | some s => .text s

/-- The kind of a value, as complaints name it. -/
def kind : Value → String
  | .undefined _ => "jinja2.runtime.Undefined object"
  | .nothing => "None"
  | .bool _ => "bool object"
  | .int _ => "int object"
  | .float _ => "float object"
  | .text _ => "str object"
  | .safe _ => "markupsafe.Markup object"
  | .list _ => "list object"
  | .tuple _ => "tuple object"
  | .mapping _ => "dict object"
  | .range _ _ _ => "range object"
  | .view what _ => what ++ " object"
  | .stream _ => "generator object"
  | .other (.date _) => "datetime.date object"
  | .other (.moment _) => "datetime.datetime object"
  | .other (.bytes _) => "bytes object"
  | .other _ => "list object"
  | .subject s => s.fullKind ++ " object"
  | .loop _ _ _ _ _ => "jinja2.runtime.LoopContext object"
  | .method _ _ => "builtin_function_or_method object"
  | .function _ => "type object"

/-- The number of items of a range. -/
def rangeLength (start stop step : Int) : Nat :=
  if step > 0 then ((stop - start + step - 1) / step).toNat
  else if step < 0 then ((start - stop - step - 1) / (-step)).toNat
  else 0

def rangeItems (start stop step : Int) : List Value :=
  (List.range (rangeLength start stop step)).map fun (i : Nat) => .int (start + step * i)

def isTrue : Value → Bool
  | .undefined _ => false
  | .nothing => false
  | .bool b => b
  | .int n => n != 0
  | .float x => x.exponentField != 0 || x.fraction != 0
  | .text s | .safe s => s != ""
  | .list items | .tuple items | .view _ items => !items.isEmpty
  | .mapping entries => !entries.isEmpty
  | .range start stop step => rangeLength start stop step != 0
  | .other (.bytes b) => !b.isEmpty
  | .loop _ length _ _ _ => length != 0
  | _ => true

mutual

/-- A value as it is shown inside a collection. -/
def displayQuoted : Value → String
  | .undefined _ => "Undefined"
  | .nothing => "None"
  | .bool b => if b then "True" else "False"
  | .int n => String.ofList (Json.intText n)
  | .float x => Datum.floatDisplay x
  | .text s => Text.quoted s
  | .safe s => "Markup(" ++ Text.quoted s ++ ")"
  | .list items => "[" ++ displayItems items ++ "]"
  | .tuple [] => "()"
  | .tuple [v] => "(" ++ displayQuoted v ++ ",)"
  | .tuple items => "(" ++ displayItems items ++ ")"
  | .mapping entries => "\x7b" ++ displayEntries entries ++ "\x7d"
  | .range start stop step =>
    if step == 1 then s!"range({start}, {stop})" else s!"range({start}, {stop}, {step})"
  | .view "set" [] => "set()"
  | .view "set" items => "\x7b" ++ displayItems items ++ "\x7d"
  | .view what items => what ++ "([" ++ displayItems items ++ "])"
  | .stream _ => "<generator object>"
  | .other d => d.displayQuoted
  | .subject s => s.displayQuoted
  | .loop index length _ _ _ => s!"<LoopContext {index + 1}/{length}>"
  | .method _ name => s!"<built-in method {name}>"
  | .function name => s!"<class '{name}'>"

def displayItems : List Value → String
  | [] => ""
  | [v] => displayQuoted v
  | v :: rest => displayQuoted v ++ ", " ++ displayItems rest

def displayEntries : List (Value × Value) → String
  | [] => ""
  | [(key, v)] => displayQuoted key ++ ": " ++ displayQuoted v
  | (key, v) :: rest => displayQuoted key ++ ": " ++ displayQuoted v ++ ", " ++ displayEntries rest

end

/-- A value as it is shown on its own. -/
def display : Value → String
  | .undefined _ => ""
  | .text s | .safe s => s
  | .other d => d.display
  | .subject s => s.display
  | v => v.displayQuoted

def ofActivities (activities : List Activity) : Value := .list (activities.map fun a => .subject (.activity a))

def elementFields (e : Element) : List (String × Value) :=
  [("name", .text e.name), ("type", .text e.type), ("key", .text e.key), ("description", ofOption e.description),
    ("properties", ofProperties e.properties)]

def bodyFields (activities : List Activity) (vars : List Variable) (messages : List Message) :
    List (String × Value) :=
  [("activities", ofActivities activities), ("variables", .list (vars.map fun v => .subject (.stored v))),
    ("messages", .list (messages.map fun m => .subject (.message m)))]

/-- The fields of a part of the model in their order. -/
def fieldsOf : Subject → List (String × Value)
  | .object e => elementFields e
  | .channel c => elementFields c.element ++ [("activator", .bool c.activator), ("channel_type", .text c.channelType)]
  | .stored v => elementFields v.element ++ [("data_type", ofOption v.dataType)]
  | .message m => elementFields m.element ++ [("message_type", ofOption m.messageType)]
  | .activity (.leaf e) => elementFields e
  | .activity (.container e activities vars messages) =>
    elementFields e ++ bodyFields activities vars messages
  | .workflow w =>
    elementFields w.element ++ bodyFields w.activities w.vars w.messages ++
      [("channels", .list (w.channels.map fun c => .subject (.channel c)))]
  | .snippet s =>
    [("resource_type", .text s.resourceType), ("template_file", .text s.templateFile),
      ("output_path", ofOption s.outputPath)]
  | .resource r =>
    [("resource_type", .text r.resourceType), ("resource_name", .text r.resourceName),
      ("parameters", ofProperties r.parameters)]
  | .manager p =>
    [("name", .text p.name), ("key", .text p.key), ("snippets", .list (p.snippets.map fun s => .subject (.snippet s))),
      ("resources", .list (p.resources.map fun r => .subject (.resource r))),
      ("workflow_model", (p.workflow.map fun w => .subject (.workflow w)).getD .nothing)]
  | .application a =>
    [("name", .text a.name), ("process_managers", .list (a.processManagers.map fun p => .subject (.manager p)))]
  | .migration m =>
    [("target_environment", .text m.target.name),
      ("applications", .list (m.applications.map fun a => .subject (.application a)))]

/-- The complaint about a use of something that is not there: an attribute by its name, an item by its key. -/
def missing (owner key : Value) : Value :=
  match key with
  | .text s | .safe s => .undefined s!"{Text.quoted owner.kind} has no attribute {Text.quoted s}"
  | key => .undefined s!"{owner.kind} has no element {key.displayQuoted}"

end Value

end WorkflowForge.Template
