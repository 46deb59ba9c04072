import WorkflowForge.Template.Operation
import WorkflowForge.Text.Search

/-!
Attributes and methods of values, and calls. A name behind a point is looked up as an attribute and then as a key, a
key in brackets as a key and then as an attribute; what is found neither way is not defined.
-/

namespace WorkflowForge.Template

/-- The arguments of a call. -/
structure Args where
  plain : List Value := []
  named : List (String × Value) := []

namespace Args

/-- The arguments by the names of the parameters. -/
def bind (a : Args) (parameters : List String) : Outcome (String → Option Value) := do
  if a.plain.length > parameters.length then throw .wrongKind
  let free := parameters.drop a.plain.length
  if a.named.any fun (name, _) => !free.contains name then throw .wrongKind
  let given := parameters.zip a.plain ++ a.named
  return fun name => given.lookup name

end Args

namespace Value

def textMethods : List String :=
  ["capitalize", "casefold", "center", "count", "encode", "endswith", "expandtabs", "find", "format", "format_map",
    "index", "isalnum", "isalpha", "isascii", "isdecimal", "isdigit", "isidentifier", "islower", "isnumeric",
    "isprintable", "isspace", "istitle", "isupper", "join", "ljust", "lower", "lstrip", "maketrans", "partition",
    "removeprefix", "removesuffix", "replace", "rfind", "rindex", "rjust", "rpartition", "rsplit", "rstrip", "split",
    "splitlines", "startswith", "strip", "swapcase", "title", "translate", "upper", "zfill"]

def listMethods : List String :=
  ["append", "clear", "copy", "count", "extend", "index", "insert", "pop", "remove", "reverse", "sort"]

def mappingMethods : List String :=
  ["clear", "copy", "fromkeys", "get", "items", "keys", "pop", "popitem", "setdefault", "update", "values"]

def subjectMethods : Subject → List String
  | .activity (.container _ _ _ _) => ["iter_containers"]
  | .workflow _ => ["iter_containers", "activator_channels"]
  | .manager _ => ["find_snippet", "snippets_with_prefix", "find_resource"]
  | _ => []

/-- The properties of a part of the model that are computed from its fields. -/
def computed (s : Subject) : List (String × Value) :=
  let stamp := match s.element? with
    | some e => [("unique_id", (e.uniqueId?.map ofDatum).getD .nothing)]
    | Option.none => []
  let nested := match s with
    | .activity (.leaf _) => [("is_container", .bool false)]
    | .activity a => [("is_container", .bool true), ("child_containers", ofActivities (a.children.filter (·.isContainer)))]
    | .workflow w =>
      [("is_container", .bool true), ("child_containers", ofActivities (w.activities.filter (·.isContainer)))]
    | _ => []
  stamp ++ nested

def subjectAttribute? (s : Subject) (name : String) : Option Value :=
  match (fieldsOf s ++ computed s).lookup name with
  | some v => some v
  | Option.none => if (subjectMethods s).contains name then some (.method (.subject s) name) else Option.none

def loopAttribute? (index length depth : Nat) (previous next : Value) (name : String) : Option Value :=
  match name with
  | "index" => some (.int (index + 1))
  | "index0" => some (.int index)
  | "revindex" => some (.int ((length : Int) - index))
  | "revindex0" => some (.int ((length : Int) - index - 1))
  | "first" => some (.bool (index == 0))
  | "last" => some (.bool (index + 1 == length))
  | "length" => some (.int length)
  | "depth" => some (.int (depth + 1))
  | "depth0" => some (.int depth)
  | "previtem" => some previous
  | "nextitem" => some next
  | "cycle" => some (.method (.loop index length depth previous next) "cycle")
  | _ => Option.none

def member? (v : Value) (name : String) : Option Value :=
  let methodIn (names : List String) := if names.contains name then some (.method v name) else Option.none
  match v with
  | .text _ | .safe _ => methodIn textMethods
  | .list _ => methodIn listMethods
  | .tuple _ => methodIn ["count", "index"]
  | .mapping _ => methodIn mappingMethods
  | .subject s => subjectAttribute? s name
  | .loop index length depth previous next => loopAttribute? index length depth previous next name
  | _ => Option.none

/-- What stands behind a point. -/
def member (v : Value) (name : String) : Outcome Value := do
  demandDefined v v
  return ((member? v name).or (item? v (.text name))).getD (missing v (.text name))

/-- What stands in brackets. -/
def item (v key : Value) : Outcome Value := do
  demandDefined v v
  let named := match string? key with
    | some name => member? v name
    | Option.none => Option.none
  return ((item? v key).or named).getD (missing v key)

def demandText (v : Value) : Outcome (List Char) :=
  match string? v with
  | some s => return s.toList
  | Option.none => throw .wrongKind

/-- The texts a beginning or an end is compared with. -/
def alternatives : Value → Outcome (List (List Char))
  | .tuple items => items.mapM demandText
  | v => return [← demandText v]

def limit? : Option Value → Outcome (Option Nat)
  | Option.none => return Option.none
  | some v =>
    match integer? v with
    | some n => return if n < 0 then Option.none else some n.toNat
    | Option.none => throw .wrongKind

def textOf (cs : List Char) : Value := .text (String.ofList cs)

/-- Removes the given characters, or white space, from the ends. -/
def stripped (start ending : Bool) (chars : Value) (cs : List Char) : Outcome (List Char) := do
  let drops ← match chars with
    | .nothing => pure Text.isBlank
    | v =>
      let set ← demandText v
      pure fun c => set.contains c
  let cs := if start then cs.dropWhile drops else cs
  return if ending then (cs.reverse.dropWhile drops).reverse else cs

/-- The first letter in upper case and the others in lower case. -/
def capitalized : List Char → List Char
  | [] => []
  | c :: rest => Text.upperChar c ++ Text.lowerChars rest

/-- Every letter that follows none in upper case, the others in lower case. -/
def titled (inWord : Bool) : List Char → List Char
  | [] => []
  | c :: rest => (if inWord then Text.lowerChar c else Text.upperChar c) ++ titled (Text.isCased c) rest

def isOneCase (ok bad : List Char → List Char) (cs : List Char) : Bool :=
  cs.any Text.isCased && ok cs == cs && (cs.all fun c => !Text.isCased c || bad [c] != [c] || ok [c] == [c])

def isDigitText (cs : List Char) : Bool := !cs.isEmpty && cs.all Char.isDigit

def padded (left right : Nat → Nat) (width : Int) (fill : Char) (cs : List Char) : List Char :=
  let gap := width.toNat - cs.length
  List.replicate (left gap) fill ++ cs ++ List.replicate (right gap) fill

def textMethod (s name : String) (a : Args) : Outcome Value := do
  let cs := s.toList
  match name with
  | "upper" =>
    discard (a.bind [])
    return textOf (Text.upperChars cs)
  | "lower" | "casefold" =>
    discard (a.bind [])
    return textOf (Text.lowerChars cs)
  | "strip" | "lstrip" | "rstrip" =>
    let get ← a.bind ["chars"]
    return textOf (← stripped (name != "rstrip") (name != "lstrip") ((get "chars").getD .nothing) cs)
  | "replace" =>
    let get ← a.bind ["old", "new", "count"]
    match get "old", get "new" with
    | some old, some new =>
      return textOf (Text.replaceText (← demandText old) (← demandText new) (← limit? (get "count")) cs)
    | _, _ => throw .wrongKind
  | "split" =>
    let get ← a.bind ["sep", "maxsplit"]
    match (get "sep").getD .nothing with
    | .nothing => return .list ((Text.words cs).map textOf)
    | sep =>
      let sep ← demandText sep
      if sep.isEmpty then throw .wrongValue
      return .list ((Text.splitFrom sep (← limit? (get "maxsplit")) 0 cs).map textOf)
  | "join" =>
    let get ← a.bind ["iterable"]
    match (get "iterable").bind items? with
    | some items => return textOf (List.intercalate cs (← items.mapM demandText))
    | Option.none => throw .wrongKind
  | "startswith" =>
    let get ← a.bind ["prefix"]
    return .bool ((← alternatives ((get "prefix").getD .nothing)).any fun p => p.isPrefixOf cs)
  | "endswith" =>
    let get ← a.bind ["suffix"]
    return .bool ((← alternatives ((get "suffix").getD .nothing)).any fun p => p.isSuffixOf cs)
  | "removeprefix" =>
    let get ← a.bind ["prefix"]
    let p ← demandText ((get "prefix").getD .nothing)
    return textOf (if p.isPrefixOf cs then cs.drop p.length else cs)
  | "removesuffix" =>
    let get ← a.bind ["suffix"]
    let p ← demandText ((get "suffix").getD .nothing)
    return textOf (if p.isSuffixOf cs then cs.take (cs.length - p.length) else cs)
  | "find" =>
    let get ← a.bind ["sub"]
    let needle ← demandText ((get "sub").getD .nothing)
    return .int (((Text.find? needle cs).map fun (n : Nat) => (n : Int)).getD (-1))
  | "index" =>
    let get ← a.bind ["sub"]
    match Text.find? (← demandText ((get "sub").getD .nothing)) cs with
    | some n => return .int n
    | Option.none => throw .wrongValue
  | "count" =>
    let get ← a.bind ["sub"]
    return .int (Text.occurrences (← demandText ((get "sub").getD .nothing)) cs)
  | "capitalize" =>
    discard (a.bind [])
    return textOf (capitalized cs)
  | "title" =>
    discard (a.bind [])
    return textOf (titled false cs)
  | "swapcase" =>
    discard (a.bind [])
    return textOf (cs.flatMap fun c => if Text.lowerChar c == [c] then Text.upperChar c else Text.lowerChar c)
  | "isdigit" | "isdecimal" | "isnumeric" =>
    discard (a.bind [])
    return .bool (isDigitText cs)
  | "isalpha" =>
    discard (a.bind [])
    return .bool (!cs.isEmpty && cs.all Char.isAlpha)
  | "isalnum" =>
    discard (a.bind [])
    return .bool (!cs.isEmpty && cs.all Char.isAlphanum)
  | "isspace" =>
    discard (a.bind [])
    return .bool (!cs.isEmpty && cs.all Text.isBlank)
  | "isupper" =>
    discard (a.bind [])
    return .bool (isOneCase Text.upperChars Text.lowerChars cs)
  | "islower" =>
    discard (a.bind [])
    return .bool (isOneCase Text.lowerChars Text.upperChars cs)
  | "zfill" =>
    let get ← a.bind ["width"]
    match (get "width").bind integer?, cs with
    | some width, c :: rest =>
      if c == '-' || c == '+' then return textOf (c :: padded id (fun _ => 0) (width - 1) '0' rest)
      else return textOf (padded id (fun _ => 0) width '0' cs)
    | some width, [] => return textOf (padded id (fun _ => 0) width '0' cs)
    | Option.none, _ => throw .wrongKind
  | "ljust" | "rjust" =>
    let get ← a.bind ["width", "fillchar"]
    match (get "width").bind integer?, ← demandText ((get "fillchar").getD (.text " ")) with
    | some width, [fill] =>
      if name == "ljust" then return textOf (padded (fun _ => 0) id width fill cs)
      else return textOf (padded id (fun _ => 0) width fill cs)
    | _, _ => throw .wrongKind
  | _ => throw .wrongKind

def listMethod (items : List Value) (name : String) (a : Args) : Outcome Value := do
  match name with
  | "count" =>
    let get ← a.bind ["value"]
    match get "value" with
    | some v => return .int (items.filter fun x => same x v).length
    | Option.none => throw .wrongKind
  | "index" =>
    let get ← a.bind ["value"]
    match (get "value").bind fun v => items.findIdx? fun x => same x v with
    | some i => return .int i
    | Option.none => throw .wrongValue
  | "copy" =>
    discard (a.bind [])
    return .list items
  | _ => throw .wrongKind

def mappingMethod (entries : List (Value × Value)) (name : String) (a : Args) : Outcome Value := do
  match name with
  | "items" =>
    discard (a.bind [])
    return .view "dict_items" (entries.map fun p => .tuple [p.1, p.2])
  | "keys" =>
    discard (a.bind [])
    return .view "dict_keys" (entries.map (·.1))
  | "values" =>
    discard (a.bind [])
    return .view "dict_values" (entries.map (·.2))
  | "get" =>
    if !a.named.isEmpty then throw .wrongKind
    let get ← a.bind ["key", "default"]
    match get "key" with
    | some key => if key.isKey then return (lookup entries key).getD ((get "default").getD .nothing) else throw .wrongKind
    | Option.none => throw .wrongKind
  | "copy" =>
    discard (a.bind [])
    return .mapping entries
  | _ => throw .wrongKind

/-- A text that names a resource type; anything else has no case to be folded. -/
def demandTypeName (v : Option Value) : Outcome String :=
  match v with
  | some (.text s) | some (.safe s) => return s
  | some (.undefined message) => throw (.template message)
  | some _ => throw .noAttribute
  | Option.none => throw .wrongKind

def subjectMethod (s : Subject) (name : String) (a : Args) : Outcome Value := do
  match s, name with
  | .activity (.container e activities vars messages), "iter_containers" =>
    discard (a.bind [])
    let all := (Activity.container e activities vars messages).containers
    return .stream (all.map fun c => .subject (.activity c))
  | .workflow w, "iter_containers" =>
    discard (a.bind [])
    let inner := Activity.containersIn w.activities
    return .stream (.subject (.workflow w) :: inner.map fun c => .subject (.activity c))
  | .workflow w, "activator_channels" =>
    discard (a.bind [])
    return .list (w.activators.map fun c => .subject (.channel c))
  | .manager p, "find_snippet" =>
    let get ← a.bind ["resource_type"]
    let key ← demandTypeName (get "resource_type")
    return ((p.findSnippet key).map fun s => .subject (.snippet s)).getD .nothing
  | .manager p, "snippets_with_prefix" =>
    let get ← a.bind ["prefix"]
    let beginning ← demandTypeName (get "prefix")
    return .list ((p.snippetsBelow beginning).map fun s => .subject (.snippet s))
  | .manager p, "find_resource" =>
    let get ← a.bind ["resource_type"]
    if p.resources.isEmpty && (get "resource_type").isSome then return .nothing
    let key ← demandTypeName (get "resource_type")
    return ((p.findResource key).map fun r => .subject (.resource r)).getD .nothing
  | _, _ => throw .wrongKind

/-- The values the arguments of a loop's cycle take in turn. -/
def cycleMethod (index : Nat) (a : Args) : Outcome Value :=
  if a.plain.isEmpty then throw .wrongKind
  else
    match a.plain[index % a.plain.length]? with
    | some v => return v
    | Option.none => throw .wrongKind

def rangeOf (a : Args) : Outcome Value := do
  if !a.named.isEmpty then throw .wrongKind
  let numbers ← a.plain.mapM fun v =>
    match integer? v with
    | some n => pure n
    | Option.none => demandDefined v v *> throw .wrongKind
  match numbers with
  | [stop] => return .range 0 stop 1
  | [start, stop] => return .range start stop 1
  | [start, stop, step] => if step == 0 then throw .wrongValue else return .range start stop step
  | _ => throw .wrongKind

/-- Adds an entry given as a pair. -/
def insertPair (entries : List (Value × Value)) (pair : Value) : Outcome (List (Value × Value)) :=
  match pair.items? with
  | some [key, v] => if key.isKey then return insert entries key v else throw .wrongKind
  | some _ => throw .wrongValue
  | Option.none => throw .wrongKind

def mappingOf (a : Args) : Outcome Value := do
  let base ← match a.plain with
    | [] => pure []
    | [.mapping entries] => pure entries
    | [v] =>
      match v.items? with
      | some items => items.foldlM insertPair []
      | Option.none => throw .wrongKind
    | _ => throw .wrongKind
  return .mapping (a.named.foldl (fun acc (name, v) => insert acc (.text name) v) base)

/-- The functions that every template has. -/
def globals : List String := ["range", "dict", "lipsum", "cycler", "joiner", "namespace"]

def call (callee : Value) (a : Args) : Outcome Value := do
  match callee with
  | .undefined message => throw (.template message)
  | .method (.text s) name => textMethod s name a
  | .method (.safe s) name => textMethod s name a
  | .method (.list items) name | .method (.tuple items) name => listMethod items name a
  | .method (.mapping entries) name => mappingMethod entries name a
  | .method (.subject s) name => subjectMethod s name a
  | .method (.loop index _ _ _ _) "cycle" => cycleMethod index a
  | .function "range" => rangeOf a
  | .function "dict" => mappingOf a
  | _ => throw .wrongKind

end Value

end WorkflowForge.Template
