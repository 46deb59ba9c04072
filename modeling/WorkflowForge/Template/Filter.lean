import WorkflowForge.Number.Numeral
import WorkflowForge.Template.Test
import WorkflowForge.Text.Identifier
import WorkflowForge.Text.Lines

/-!
The filters of values.
-/

namespace WorkflowForge.Template

namespace Value

/-- A text kept as it is, and the text of anything else. -/
def soft (v : Value) : Value :=
  match v with
  | .text _ | .safe _ => v
  | v => .text v.display

/-- Changes the characters of a text, which stays safe if it was. -/
def mapText (f : List Char → List Char) (v : Value) : Value :=
  match soft v with
  | .safe s => .safe (String.ofList (f s.toList))
  | v => .text (String.ofList (f v.display.toList))

def demandItems (v : Value) : Outcome (List Value) :=
  match v.items? with
  | some items => return items
  | Option.none => throw .wrongKind

def isGiven (v : Option Value) : Bool := (v.map isTrue).getD false

/-- The parts of a dotted path to an attribute; those of digits are places. -/
def pathParts (path : Value) : List Value :=
  match path with
  | .nothing => []
  | .text s | .safe s =>
    (Text.splitText '.' s).map fun part =>
      match isDigitText part.toList, Numeral.int? 10 part with
      | true, some n => .int n
      | _, _ => .text part
  | v => [v]

def follow (v : Value) (path : List Value) : Outcome Value := path.foldlM item v

def foldCase (v : Value) : Value :=
  match string? v with
  | some s => .text (Text.lower s)
  | Option.none => v

/-- The key by which an item is sorted: its attributes, texts in lower case unless case counts. -/
def sortKey (paths : List (List Value)) (exact : Bool) (v : Value) : Outcome Value := do
  let parts ← paths.mapM fun path => do
    let part ← follow v path
    return if exact then part else foldCase part
  return .list parts

def sortPaths (path : Value) : List (List Value) :=
  match path with
  | .text s | .safe s => (Text.splitText ',' s).map fun part => pathParts (.text part)
  | v => [pathParts v]

/-- The number a value is read as, and the fallback where it is none. -/
def toInt (v fallback : Value) (base : Nat) : Outcome Value := do
  demandDefined v v
  match v with
  | .text s | .safe s =>
    match Numeral.int? base s, Numeral.float? s with
    | some n, _ => return .int n
    | Option.none, some x => return if x.isFinite then .int x.truncate else fallback
    | Option.none, Option.none => return fallback
  | .float x =>
    if x.isFinite then return .int x.truncate
    else if x.isNaN then return fallback
    else throw .tooLarge
  | v =>
    match integer? v with
    | some n => return .int n
    | Option.none => return fallback

def toFloat (v fallback : Value) : Outcome Value := do
  demandDefined v v
  match v with
  | .text s | .safe s => return ((Numeral.float? s).map Value.float).getD fallback
  | v =>
    match number? v with
    | some n =>
      match n.toDouble with
      | .ok x => return .float x
      | .error _ => throw .tooLarge
    | Option.none => return fallback

/-- Rounds to so many places after the point, a tie going to the even neighbour. -/
def roundTo (x : Double) (places : Int) : Double :=
  if !x.isFinite || x.mantissa == 0 then x
  else
    let (num, den) :=
      if x.scale ≥ 0 then (x.mantissa * Nat.pow 2 x.scale.toNat, 1) else (x.mantissa, Nat.pow 2 (-x.scale).toNat)
    let rounded :=
      if places ≥ 0 then Double.roundDiv (num * Nat.pow 10 places.toNat) den
      else Double.roundDiv num (den * Nat.pow 10 (-places).toNat)
    Double.ofDecimal x.isNegative rounded (-places)

def roundInt (n : Int) (places : Int) : Int :=
  if places ≥ 0 then n
  else
    let unit := Nat.pow 10 (-places).toNat
    let rounded := Double.roundDiv n.natAbs unit * unit
    if n < 0 then -(rounded : Int) else rounded

def roundFilter (v : Value) (places : Int) (way : String) : Outcome Value := do
  demandDefined v v
  match way, number? v with
  | "common", some (.int n) => return .int (roundInt n places)
  | "common", some (.float x) => return .float (roundTo x places)
  | "ceil", some n | "floor", some n =>
    let unit ← liftNumber (Number.pow (.int 10) (.int places))
    let scaled ← mul (ofNumber n) unit
    match number? scaled with
    | some (.float x) =>
      if !x.isFinite then throw .tooLarge
      let whole := Double.ofFloat (if way == "ceil" then x.toFloat.ceil else x.toFloat.floor)
      arithmetic .div (.int whole.truncate) unit
    | _ => arithmetic .div scaled unit
  | "common", Option.none => throw .wrongKind
  | "ceil", Option.none | "floor", Option.none => throw .wrongKind
  | _, _ => throw (.template "method must be common, ceil or floor")

/-- Words with their first letter in upper case; a word follows a dash, an opening bracket or white space. -/
def titleWords (atStart : Bool) : List Char → List Char
  | [] => []
  | c :: rest =>
    if Text.isBlank c || "-(\x7b[<".toList.contains c then c :: titleWords true rest
    else (if atStart then Text.upperChar c else Text.lowerChar c) ++ titleWords false rest

def wordCount (inWord : Bool) : List Char → Nat
  | [] => 0
  | c :: rest => (if Text.isWordChar c && !inWord then 1 else 0) + wordCount (Text.isWordChar c) rest

/-- Indents the lines of a text; the first only where asked, those without content only where asked. -/
def indented (width : List Char) (first blank : Bool) (cs : List Char) : List Char :=
  match Text.splitAt '\n' cs with
  | [] => []
  | line :: lines =>
    let shift (l : List Char) := if blank || !l.isEmpty then width ++ l else l
    let rest := lines.map shift
    let head := if first then width ++ line else line
    Text.joinWith ['\n'] (head :: rest)

/-- The JSON text of a value, safe to stand in a page. -/
def embedded (v : Value) (indent : Option Nat) : Outcome Value := do
  let layout := match indent with
    | Option.none => Layout.embedded
    | some n => { Layout.embedded with comma := [','], indent := some n }
  return .safe (Json.text layout (← v.toJson))

/-- The least or greatest of some items by a key. -/
def extreme (greatest : Bool) (v : Value) (get : String → Option Value) : Outcome Value := do
  match ← demandItems v with
  | [] => return .undefined "No aggregated item, sequence was empty."
  | x :: rest =>
    let path := pathParts ((get "attribute").getD .nothing)
    let exact := isGiven (get "case_sensitive")
    let keyOf (v : Value) : Outcome Value := do
      let key ← follow v path
      return if exact then key else foldCase key
    let mut best := x
    let mut bestKey ← keyOf x
    for y in rest do
      let key ← keyOf y
      let better ← if greatest then isLess bestKey key else isLess key bestKey
      if better then
        best := y
        bestKey := key
    return best

/-- The items whose keys have not been met before. -/
def uniqueItems (seen : List Value) : List (Value × Value) → List Value
  | [] => []
  | (key, v) :: rest => if seen.any (same key) then uniqueItems seen rest else v :: uniqueItems (key :: seen) rest

/-- Applies a filter that is not built from other filters or tests. -/
def simpleFilter (name : String) (v : Value) (a : Args) : Outcome Value := do
  match name with
  | "upper" => discard (a.bind []); return mapText Text.upperChars v
  | "lower" => discard (a.bind []); return mapText Text.lowerChars v
  | "capitalize" => discard (a.bind []); return mapText capitalized v
  | "title" => discard (a.bind []); return mapText (titleWords true) v
  | "trim" =>
    let get ← a.bind ["chars"]
    let cs ← stripped true true ((get "chars").getD .nothing) (soft v).display.toList
    return mapText (fun _ => cs) v
  | "string" => discard (a.bind []); return soft v
  | "safe" => discard (a.bind []); return .safe v.display
  | "escape" | "e" =>
    discard (a.bind [])
    match v with
    | .safe _ => return v
    | v => return .safe (escaped v.display)
  | "forceescape" => discard (a.bind []); return .safe (escaped v.display)
  | "length" | "count" => discard (a.bind []); return .int (← v.length)
  | "default" | "d" =>
    let get ← a.bind ["default_value", "boolean"]
    if v.undefined?.isSome || (isGiven (get "boolean") && !v.isTrue) then
      return (get "default_value").getD (.text "")
    else return v
  | "replace" =>
    let get ← a.bind ["old", "new", "count"]
    match get "old", get "new" with
    | some old, some new =>
      let limit ← match get "count" with
        | some .nothing => pure Option.none
        | count => limit? count
      return textOf (Text.replaceText old.display.toList new.display.toList limit v.display.toList)
    | _, _ => throw .wrongKind
  | "join" =>
    let get ← a.bind ["d", "attribute"]
    let path := pathParts ((get "attribute").getD .nothing)
    let items ← (← demandItems v).mapM fun x => follow x path
    return .text (String.intercalate ((get "d").getD (.text "")).display (items.map display))
  | "int" =>
    let get ← a.bind ["default", "base"]
    let base := (((get "base").bind integer?).getD 10).toNat
    toInt v ((get "default").getD (.int 0)) base
  | "float" =>
    let get ← a.bind ["default"]
    toFloat v ((get "default").getD (.float (Double.ofInt 0)))
  | "abs" =>
    discard (a.bind [])
    match number? v with
    | some n => return ofNumber n.abs
    | Option.none => throw .wrongKind
  | "round" =>
    let get ← a.bind ["precision", "method"]
    match integer? ((get "precision").getD (.int 0)) with
    | some places => roundFilter v places ((get "method").getD (.text "common")).display
    | Option.none => throw .wrongKind
  | "first" =>
    discard (a.bind [])
    match ← demandItems v with
    | x :: _ => return x
    | [] => return .undefined "No first item, sequence was empty."
  | "last" =>
    discard (a.bind [])
    match v with
    | .stream _ | .subject _ | .view "set" _ => throw .wrongKind
    | v =>
      match (← demandItems v).getLast? with
      | some x => return x
      | Option.none => return .undefined "No last item, sequence was empty."
  | "list" => discard (a.bind []); return .list (← demandItems v)
  | "reverse" =>
    discard (a.bind [])
    match v with
    | .text s => return textOf s.toList.reverse
    | .safe s => return .safe (String.ofList s.toList.reverse)
    | v =>
      match v.items? with
      | some items => return .stream items.reverse
      | Option.none => throw (.template "argument must be iterable")
  | "sort" =>
    let get ← a.bind ["reverse", "case_sensitive", "attribute"]
    let paths := sortPaths ((get "attribute").getD .nothing)
    let keyed ← (← demandItems v).mapM fun x => do return (← sortKey paths (isGiven (get "case_sensitive")) x, x)
    return .list (← sortBy (isGiven (get "reverse")) keyed)
  | "dictsort" =>
    let get ← a.bind ["case_sensitive", "by", "reverse"]
    match v, ((get "by").getD (.text "key")).display with
    | .mapping entries, "key" | .mapping entries, "value" =>
      let byKey := ((get "by").getD (.text "key")).display == "key"
      let keyed := entries.map fun p =>
        let part := if byKey then p.1 else p.2
        (if isGiven (get "case_sensitive") then part else foldCase part, .tuple [p.1, p.2])
      return .list (← sortBy (isGiven (get "reverse")) keyed)
    | .mapping _, _ => throw (.template "You can only sort by either \"key\" or \"value\"")
    | .undefined message, _ => throw (.template message)
    | _, _ => throw .noAttribute
  | "unique" =>
    let get ← a.bind ["case_sensitive", "attribute"]
    let path := pathParts ((get "attribute").getD .nothing)
    let keyed ← (← demandItems v).mapM fun x => do
      let key ← follow x path
      return (if isGiven (get "case_sensitive") then key else foldCase key, x)
    return .stream (uniqueItems [] keyed)
  | "items" =>
    discard (a.bind [])
    match v with
    | .undefined _ => return .stream []
    | .mapping entries => return .stream (entries.map fun p => .tuple [p.1, p.2])
    | _ => throw .wrongKind
  | "sum" =>
    let get ← a.bind ["attribute", "start"]
    let path := pathParts ((get "attribute").getD .nothing)
    (← demandItems v).foldlM (fun acc x => do add acc (← follow x path)) ((get "start").getD (.int 0))
  | "max" => extreme true v (← a.bind ["case_sensitive", "attribute"])
  | "min" => extreme false v (← a.bind ["case_sensitive", "attribute"])
  | "tojson" =>
    let get ← a.bind ["indent"]
    match (get "indent").getD .nothing with
    | .nothing => embedded v Option.none
    | n =>
      match integer? n with
      | some n => embedded v (some n.toNat)
      | Option.none => throw .wrongKind
  | "indent" =>
    let get ← a.bind ["width", "first", "blank"]
    let width ← match (get "width").getD (.int 4) with
      | .text s | .safe s => pure s.toList
      | n =>
        match integer? n with
        | some n => pure (List.replicate n.toNat ' ')
        | Option.none => throw .wrongKind
    return mapText (indented width (isGiven (get "first")) (isGiven (get "blank"))) v
  | "wordcount" => discard (a.bind []); return .int (wordCount false (soft v).display.toList)
  | "center" =>
    let get ← a.bind ["width"]
    match integer? ((get "width").getD (.int 80)) with
    | some width =>
      let cs := (soft v).display.toList
      let gap := width.toNat - cs.length
      let left := gap / 2 + (if gap % 2 == 1 && width.toNat % 2 == 1 then 1 else 0)
      return mapText (fun cs => List.replicate left ' ' ++ cs ++ List.replicate (gap - left) ' ') v
    | Option.none => throw .wrongKind
  | "format" =>
    if !a.named.isEmpty then throw .wrongKind
    format (soft v).display (.tuple a.plain)
  | "attr" =>
    let get ← a.bind ["name"]
    match get "name" with
    | some key =>
      demandDefined v v
      return (member? v key.display).getD (missing v (.text key.display))
    | Option.none => throw .wrongKind
  | _ => throw .wrongKind

/-- The items a test holds of, or those it does not hold of, looked at through a path. -/
def selection (keep : Bool) (path : List Value) (v : Value) (args : List Value) : Outcome Value := do
  let decide (x : Value) : Outcome Bool := do
    let x ← follow x path
    match args with
    | [] => return x.isTrue
    | name :: rest => passes name.display x ⟨rest, []⟩
  let flags ← (← demandItems v).mapM fun x => do return (x, ← decide x)
  return .stream ((flags.filter fun p => p.2 == keep).map (·.1))

/-- Applies a filter; one that is not known fails where it is met. -/
def filter (name : String) (v : Value) (a : Args) : Outcome Value := do
  if !knownFilters.contains name then throw (.template s!"No filter named {Text.quoted name} found.")
  match name, a.plain with
  | "map", [] =>
    match a.named.lookup "attribute" with
    | some path =>
      let fallback := a.named.lookup "default"
      let items ← (← demandItems v).mapM fun x => do
        let found ← follow x (pathParts path)
        return if found.undefined?.isSome then fallback.getD found else found
      return .stream items
    | Option.none => throw (.template "map requires a filter argument")
  | "map", which :: rest =>
    if !knownFilters.contains which.display then
      throw (.template s!"No filter named {Text.quoted which.display}.")
    return .stream (← (← demandItems v).mapM fun x => simpleFilter which.display x ⟨rest, a.named⟩)
  | "select", args => selection true [] v args
  | "reject", args => selection false [] v args
  | "selectattr", path :: args => selection true (pathParts path) v args
  | "rejectattr", path :: args => selection false (pathParts path) v args
  | "selectattr", [] | "rejectattr", [] => throw (.template "Missing parameter for attribute name")
  | _, _ => simpleFilter name v a

end Value

end WorkflowForge.Template
