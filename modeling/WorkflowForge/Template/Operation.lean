import WorkflowForge.Number.Arithmetic
import WorkflowForge.Template.Expr
import WorkflowForge.Template.Value

/-!
What values do: equality, order, arithmetic, membership, iteration and access to items. A value that is not defined is
empty and equal only to another such value; arithmetic and order fail on it with its message.
-/

namespace WorkflowForge.Template

namespace Value

def number? : Value → Option Number
  | .bool b => some (.int (if b then 1 else 0))
  | .int n => some (.int n)
  | .float x => some (.float x)
  | _ => Option.none

def integer? : Value → Option Int
  | .bool b => some (if b then 1 else 0)
  | .int n => some n
  | _ => Option.none

def string? : Value → Option String
  | .text s | .safe s => some s
  | _ => Option.none

def ofNumber : Number → Value
  | .int n => .int n
  | .float x => .float x

def undefined? : Value → Option String
  | .undefined message => some message
  | _ => Option.none

/-- Fails where one of two values is not defined. -/
def demandDefined (a b : Value) : Outcome Unit :=
  match a, b with
  | .undefined message, _ => throw (.template message)
  | _, .undefined message => throw (.template message)
  | _, _ => return ()

mutual

/-- Whether two values are equal. -/
def same : Value → Value → Bool
  | .undefined _, .undefined _ => true
  | .nothing, .nothing => true
  | .list xs, .list ys => sameItems xs ys
  | .tuple xs, .tuple ys => sameItems xs ys
  | .mapping xs, .mapping ys => xs.length == ys.length && within xs ys
  | .range a b c, .range d e f =>
    let n := rangeLength a b c
    n == rangeLength d e f && (n == 0 || (a == d && (n == 1 || c == f)))
  | .view k xs, .view l ys => k == l && sameItems xs ys
  | .other d, .other e => Datum.sameKey d e
  | .subject s, .subject t => s.displayQuoted == t.displayQuoted
  | a, b =>
    match string? a, string? b, number? a, number? b with
    | some s, some t, _, _ => s == t
    | _, _, some m, some n => m.compare? n == some .eq
    | _, _, _, _ => false

def sameItems : List Value → List Value → Bool
  | [], [] => true
  | x :: xs, y :: ys => same x y && sameItems xs ys
  | _, _ => false

def within : List (Value × Value) → List (Value × Value) → Bool
  | [], _ => true
  | (key, v) :: rest, entries =>
    (match entries.find? fun p => same key p.1 with
      | some p => same v p.2
      | Option.none => false) && within rest entries

end

/-- Whether a value can be a key. -/
def isKey : Value → Bool
  | .list _ | .mapping _ | .view _ _ => false
  | _ => true

def lookup (entries : List (Value × Value)) (key : Value) : Option Value :=
  (entries.find? fun p => same p.1 key).map (·.2)

/-- Puts a value under a key: in its old place, under the old key, or last where the key is new. -/
def insert (entries : List (Value × Value)) (key v : Value) : List (Value × Value) :=
  if entries.any fun p => same p.1 key then
    entries.map fun p => if same p.1 key then (p.1, v) else p
  else entries ++ [(key, v)]

mutual

/-- The order of two values of one ordered kind; none where a number that is not one takes part. -/
def order : Value → Value → Outcome (Option Ordering)
  | .undefined message, _ => throw (.template message)
  | _, .undefined message => throw (.template message)
  | .list xs, .list ys => orderItems xs ys
  | .tuple xs, .tuple ys => orderItems xs ys
  | a, b =>
    match string? a, string? b, number? a, number? b with
    | some s, some t, _, _ => return some (compareOfLessAndEq s t)
    | _, _, some m, some n => return m.compare? n
    | _, _, _, _ => throw .wrongKind

def orderItems : List Value → List Value → Outcome (Option Ordering)
  | [], [] => return some .eq
  | [], _ :: _ => return some .lt
  | _ :: _, [] => return some .gt
  | x :: xs, y :: ys => if same x y then orderItems xs ys else order x y

end

def isLess (a b : Value) : Outcome Bool := return (← order a b) == some .lt

/-- Puts a value in a sorted list, behind those that it does not precede. -/
def insertSorted (precedes : Value → Value → Outcome Bool) (x : Value × Value) :
    List (Value × Value) → Outcome (List (Value × Value))
  | [] => return [x]
  | y :: rest => do
    if ← precedes x.1 y.1 then return x :: y :: rest else return y :: (← insertSorted precedes x rest)

/-- Values with keys, sorted by the keys; those with equal keys keep their order. -/
def sortBy (descending : Bool) (items : List (Value × Value)) : Outcome (List Value) := do
  let precedes (a b : Value) := if descending then isLess b a else isLess a b
  let sorted ← items.foldlM (fun acc x => insertSorted precedes x acc) []
  return sorted.map (·.2)

/-- The items a value consists of, for values that can be looped over. -/
def items? : Value → Option (List Value)
  | .undefined _ => some []
  | .text s | .safe s => some (s.toList.map fun c => .text (String.singleton c))
  | .list items | .tuple items | .view _ items | .stream items => some items
  | .mapping entries => some (entries.map (·.1))
  | .range start stop step => some (rangeItems start stop step)
  | .other (.bytes b) => some (b.map fun n => .int n.toNat)
  | .subject s => some ((fieldsOf s).map fun (name, v) => .tuple [.text name, v])
  | _ => Option.none

/-- The number of items of a value. -/
def length : Value → Outcome Nat
  | .undefined _ => return 0
  | .text s | .safe s => return s.length
  | .list items | .tuple items | .view _ items => return items.length
  | .mapping entries => return entries.length
  | .range start stop step => return rangeLength start stop step
  | .other (.bytes b) => return b.length
  | .loop _ length _ _ _ => return length
  | _ => throw .wrongKind

def liftNumber (r : Except Number.Mistake Number) : Outcome Value :=
  match r with
  | .ok n => return ofNumber n
  | .error .zeroDivision => throw .zeroDivision
  | .error .tooLarge => throw .tooLarge

/-- The text with the characters that mean something in a page replaced. -/
def escaped (s : String) : String :=
  String.join (s.toList.map fun c =>
    if c == '&' then "&amp;"
    else if c == '<' then "&lt;"
    else if c == '>' then "&gt;"
    else if c == '"' then "&#34;"
    else if c == '\'' then "&#39;"
    else String.singleton c)

def repeated (n : Int) (items : List α) : List α := (List.replicate n.toNat items).flatten

def add (a b : Value) : Outcome Value := do
  demandDefined a b
  match a, b with
  | .safe s, .safe t => return .safe (s ++ t)
  | .safe s, .text t => return .safe (s ++ escaped t)
  | .text s, .safe t => return .safe (escaped s ++ t)
  | .text s, .text t => return .text (s ++ t)
  | .list xs, .list ys => return .list (xs ++ ys)
  | .tuple xs, .tuple ys => return .tuple (xs ++ ys)
  | a, b =>
    match number? a, number? b with
    | some m, some n => liftNumber (m.add n)
    | _, _ => throw .wrongKind

/-- A sequence repeated so many times. -/
def times? (a b : Value) : Option Value :=
  match a, integer? b with
  | .text s, some n => some (.text (String.ofList (repeated n s.toList)))
  | .safe s, some n => some (.safe (String.ofList (repeated n s.toList)))
  | .list xs, some n => some (.list (repeated n xs))
  | .tuple xs, some n => some (.tuple (repeated n xs))
  | _, _ => Option.none

def mul (a b : Value) : Outcome Value := do
  demandDefined a b
  match number? a, number? b, times? a b, times? b a with
  | some m, some n, _, _ => liftNumber (m.mul n)
  | _, _, some v, _ => return v
  | _, _, Option.none, some v => return v
  | _, _, _, _ => throw .wrongKind

/-- A text with its place holders filled by values in their order. -/
def fill : List Char → List Value → Outcome (List Char)
  | [], [] => return []
  | [], _ :: _ => throw .wrongKind
  | '%' :: '%' :: rest, args => return '%' :: (← fill rest args)
  | '%' :: c :: rest, args =>
    match args with
    | [] => throw .wrongKind
    | v :: args =>
      if c == 's' then return v.display.toList ++ (← fill rest args)
      else if c == 'r' then return v.displayQuoted.toList ++ (← fill rest args)
      else if c == 'd' || c == 'i' then
        match number? v with
        | some (.int n) => return Json.intText n ++ (← fill rest args)
        | some (.float x) =>
          if x.isFinite then return Json.intText x.truncate ++ (← fill rest args) else throw .wrongValue
        | Option.none => throw .wrongKind
      else throw .wrongValue
  | ['%'], _ => throw .wrongValue
  | c :: rest, args => return c :: (← fill rest args)

def format (s : String) (v : Value) : Outcome Value := do
  let args := match v with
    | .tuple items => items
    | v => [v]
  return .text (String.ofList (← fill s.toList args))

def arithmetic (op : Binary) (a b : Value) : Outcome Value := do
  match op with
  | .add => add a b
  | .mul => mul a b
  | _ =>
    match op, string? a with
    | .mod, some s => if b.undefined?.isSome then demandDefined b b; throw .wrongKind else format s b
    | _, _ =>
      demandDefined a b
      match number? a, number? b with
      | some m, some n =>
        match op with
        | .sub => liftNumber (m.sub n)
        | .div => liftNumber (m.div n)
        | .floorDiv => liftNumber (m.floorDiv n)
        | .mod => liftNumber (m.mod n)
        | _ => liftNumber (m.pow n)
      | _, _ => throw .wrongKind

def signed (op : Unary) (v : Value) : Outcome Value := do
  demandDefined v v
  match op, number? v with
  | .negate, some n => return ofNumber n.neg
  | .affirm, some n => return ofNumber n
  | _, Option.none => throw .wrongKind

/-- Whether a text occurs in another. -/
def occursIn (needle : List Char) : List Char → Bool
  | [] => needle.isEmpty
  | c :: rest => needle.isPrefixOf (c :: rest) || occursIn needle rest

def contains (container v : Value) : Outcome Bool := do
  match container with
  | .text s | .safe s =>
    match string? v with
    | some t => return occursIn t.toList s.toList
    | Option.none => throw .wrongKind
  | .mapping entries => if v.isKey then return (lookup entries v).isSome else throw .wrongKind
  | container =>
    match container.items? with
    | some items => return items.any fun x => same x v
    | Option.none => throw .wrongKind

def related (r : Relation) (a b : Value) : Outcome Bool := do
  match r with
  | .eq => return same a b
  | .ne => return !same a b
  | .isIn => contains b a
  | .notIn => return !(← contains b a)
  | .lt => return (← order a b) == some .lt
  | .gt => return (← order a b) == some .gt
  | .le =>
    let o ← order a b
    return o == some .lt || o == some .eq
  | .ge =>
    let o ← order a b
    return o == some .gt || o == some .eq

/-- The place of an item counted from the end where the number is negative. -/
def place? (length : Nat) (n : Int) : Option Nat :=
  let i := if n < 0 then n + length else n
  if 0 ≤ i && i < length then some i.toNat else Option.none

/-- The item under a key or at a place. -/
def item? (v key : Value) : Option Value :=
  match v with
  | .mapping entries => if key.isKey then lookup entries key else Option.none
  | .text s | .safe s => do
    let cs := s.toList
    let i ← place? cs.length (← integer? key)
    return .text (String.singleton (← cs[i]?))
  | .list items | .tuple items => do items[← place? items.length (← integer? key)]?
  | .range start stop step => do
    let i ← place? (rangeLength start stop step) (← integer? key)
    return .int (start + step * i)
  | .other (.bytes b) => do return .int (← b[← place? b.length (← integer? key)]?).toNat
  | _ => Option.none

/-- A bound of a slice, kept within the sequence. -/
def sliceBound (length : Nat) (low high fallback : Int) : Option Int → Int
  | Option.none => fallback
  | some n => max low (min high (if n < 0 then n + length else n))

/-- The places of a slice. -/
def slicePlaces (length : Nat) (start stop : Option Int) (step : Int) : List Nat :=
  let (first, last) :=
    if step > 0 then (sliceBound length 0 length 0 start, sliceBound length 0 length length stop)
    else (sliceBound length (-1) (length - 1) (length - 1) start, sliceBound length (-1) (length - 1) (-1) stop)
  (List.range (rangeLength first last step)).map fun (i : Nat) => (first + step * i).toNat

def slice (v start stop step : Value) : Outcome Value := do
  demandDefined v v
  let bound (b : Value) : Outcome (Option Int) :=
    match b, integer? b with
    | .nothing, _ => return Option.none
    | _, some n => return some n
    | _, Option.none => throw .wrongKind
  let pick {α : Type} (items : List α) : Outcome (List α) := do
    let step := (← bound step).getD 1
    if step == 0 then throw .wrongValue
    return (slicePlaces items.length (← bound start) (← bound stop) step).filterMap (items[·]?)
  match v with
  | .text s => return .text (String.ofList (← pick s.toList))
  | .safe s => return .safe (String.ofList (← pick s.toList))
  | .list items => return .list (← pick items)
  | .tuple items => return .tuple (← pick items)
  | .range start stop step => return .list (← pick (rangeItems start stop step))
  | _ => throw .wrongKind

/-- A key as the name of a field. -/
def keyName? : Value → Option String
  | .text s | .safe s => some s
  | .nothing => some "null"
  | .bool b => some (if b then "true" else "false")
  | .int n => some (String.ofList (Json.intText n))
  | .float x => some (String.ofList (Json.floatText x))
  | _ => Option.none

/-- Fields with the keys they came from, sorted by the keys. -/
def sortFields (fields : List (Value × String × Json)) : Outcome (List (String × Json)) := do
  let insertOne (acc : List (Value × String × Json)) (x : Value × String × Json) :
      Outcome (List (Value × String × Json)) := do
    let flags ← acc.mapM fun y => isLess x.1 y.1
    let before := (acc.zip flags).takeWhile (!·.2)
    return acc.take before.length ++ x :: acc.drop before.length
  let sorted ← fields.foldlM insertOne []
  return sorted.map (·.2)

mutual

/-- A value as JSON with sorted fields. -/
def toJson : Value → Outcome Json
  | .nothing => return .null
  | .bool b => return .bool b
  | .int n => return .int n
  | .float x => return .float x
  | .text s => return .string s
  | .safe s => return .string s
  | .list items => return .array (← toJsonItems items)
  | .tuple items => return .array (← toJsonItems items)
  | .mapping entries => return .object (← sortFields (← toJsonEntries entries))
  | _ => throw .wrongKind

def toJsonItems : List Value → Outcome (List Json)
  | [] => return []
  | v :: rest => return (← toJson v) :: (← toJsonItems rest)

def toJsonEntries : List (Value × Value) → Outcome (List (Value × String × Json))
  | [] => return []
  | (key, v) :: rest => do
    match keyName? key with
    | some name => return (key, name, ← toJson v) :: (← toJsonEntries rest)
    | Option.none => throw .wrongKind

end

end Value

end WorkflowForge.Template
