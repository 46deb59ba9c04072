import WorkflowForge.Template.Expr

/-!
Reading expressions from tokens. From weakest to strongest bind the inline choice, `or`, `and`, `not`, comparisons,
sums, joining of texts, products, powers, signs, and what stands behind a value: attributes, items, calls, filters
and tests. Every reader spends one step; the number of tokens bounds how many are needed.
-/

namespace WorkflowForge.Template

/-- A reader of tokens; what it throws is the complaint about the template. -/
abbrev Parse := StateT (List Token) (Except String)

namespace Parse

def current : Parse Token := do
  match ← get with
  | token :: _ => return token
  | [] => return ⟨.ending, 0⟩

def kind : Parse TokenKind := return (← current).kind

/-- Stops where the next token is a fault of the text. -/
def settle : Parse Unit := do
  match ← kind with
  | .fault message => throw message
  | _ => return

/-- Passes to the next token and gives the one passed; the end is never passed. -/
def advance : Parse Token := do
  match ← get with
  | token :: next :: rest =>
    set (next :: rest)
    settle
    return token
  | _ => current

/-- The token after the current one. -/
def lookAhead : Parse TokenKind := do
  match ← get with
  | _ :: ⟨.fault message, _⟩ :: _ => throw message
  | _ :: next :: _ => return next.kind
  | _ => return .ending

def isAt (wanted : TokenKind) : Parse Bool := return (← kind) == wanted

def isAtMark (m : Mark) : Parse Bool := isAt (.mark m)

def isAtName (s : String) : Parse Bool := isAt (.name s)

def skipIf (wanted : TokenKind) : Parse Bool := do
  if ← isAt wanted then
    discard advance
    return true
  else return false

def mismatch (wanted : String) : Parse α := do
  match ← kind with
  | .ending => throw s!"unexpected end of template, expected {Text.quoted wanted}."
  | found => throw s!"expected token {Text.quoted wanted}, got {Text.quoted found.describe}"

def expect (wanted : TokenKind) : Parse Unit := do
  if ← isAt wanted then discard advance else mismatch wanted.describe

def expectMark (m : Mark) : Parse Unit := expect (.mark m)

def expectName : Parse String := do
  match ← kind with
  | .name s =>
    discard advance
    return s
  | _ => mismatch "name"

/-- Names joined by points. -/
def dottedTail : (steps : Nat) → String → Parse String
  | 0, name => return name
  | steps + 1, name => do
    if ← skipIf (.mark .dot) then
      let next ← expectName
      dottedTail steps s!"{name}.{next}"
    else return name

/-- The texts of the strings that follow one another. -/
def stringTail : (steps : Nat) → String → Parse String
  | 0, s => return s
  | steps + 1, s => do
    match ← kind with
    | .string t =>
      discard advance
      stringTail steps (s ++ t)
    | _ => return s

def relation? : TokenKind → Option Relation
  | .mark .eq => some .eq
  | .mark .ne => some .ne
  | .mark .lt => some .lt
  | .mark .le => some .le
  | .mark .gt => some .gt
  | .mark .ge => some .ge
  | _ => none

def sum? : TokenKind → Option Binary
  | .mark .add => some .add
  | .mark .sub => some .sub
  | _ => none

def product? : TokenKind → Option Binary
  | .mark .mul => some .mul
  | .mark .div => some .div
  | .mark .floorDiv => some .floorDiv
  | .mark .mod => some .mod
  | _ => none

/-- Whether a test takes the current token as the beginning of its one argument. -/
def startsArgument : TokenKind → Bool
  | .name s => s != "else" && s != "or" && s != "and"
  | .string _ | .integer _ | .float _ => true
  | .mark .leftBracket | .mark .leftBrace => true
  | _ => false

/-- Which form of a list of expressions is read. -/
structure Listing where
  /-- Only names, literals and what stands in brackets. -/
  simplified : Bool := false
  /-- Inline choices are allowed. -/
  choices : Bool := true
  /-- A name that ends the list. -/
  stop : Option String := none
  /-- The list stands in parentheses and may be empty. -/
  parentheses : Bool := false

def endsListing (l : Listing) : Parse Bool := do
  match ← kind with
  | .closing _ | .mark .rightParen => return true
  | .name s => return l.stop == some s
  | _ => return false

/-- Whether one more argument of the given form may follow those read. -/
def admits (args : List (Passing × Expr)) (next : Passing) : Bool :=
  let has (p : Passing → Bool) := args.any fun (passing, _) => p passing
  let spread := has (· == .spread)
  let spreadNamed := has (· == .spreadNamed)
  match next with
  | .plain => !spread && !spreadNamed && !has (fun p => p matches .named _)
  | .named _ => !spreadNamed
  | .spread => !spread && !spreadNamed
  | .spreadNamed => !spreadNamed

def outOfSteps : Parse α := throw "the template is nested too deeply"

mutual

/-- Expressions with commas between them: one alone stands for itself, more are a tuple. -/
def tuple (l : Listing) : (steps : Nat) → Parse Expr
  | 0 => outOfSteps
  | steps + 1 => do
    let (items, isTuple) ← tupleItems l [] false steps
    match items, isTuple with
    | [e], false => return e
    | [], false =>
      if l.parentheses then return .tuple []
      else throw s!"Expected an expression, got {Text.quoted (← kind).describe}"
    | items, _ => return .tuple items

def tupleItems (l : Listing) (items : List Expr) (isTuple : Bool) : (steps : Nat) → Parse (List Expr × Bool)
  | 0 => outOfSteps
  | steps + 1 => do
    if !items.isEmpty then expectMark .comma
    if ← endsListing l then return (items, isTuple)
    let e ← if l.simplified then primary steps else if l.choices then expression steps else disjunction steps
    let items := items ++ [e]
    if ← isAtMark .comma then tupleItems l items true steps else return (items, isTuple)

def expression : (steps : Nat) → Parse Expr
  | 0 => outOfSteps
  | steps + 1 => do
    let line := (← current).line
    let e ← disjunction steps
    choiceTail line e steps

def choiceTail (line : Nat) (e : Expr) : (steps : Nat) → Parse Expr
  | 0 => outOfSteps
  | steps + 1 => do
    if ← skipIf (.name "if") then
      let test ← disjunction steps
      let no ← if ← skipIf (.name "else") then some <$> expression steps else pure none
      choiceTail (← current).line (.choice line test e no) steps
    else return e

def disjunction : (steps : Nat) → Parse Expr
  | 0 => outOfSteps
  | steps + 1 => do
    let e ← conjunction steps
    disjunctionTail e steps

def disjunctionTail (e : Expr) : (steps : Nat) → Parse Expr
  | 0 => outOfSteps
  | steps + 1 => do
    if ← skipIf (.name "or") then
      let right ← conjunction steps
      disjunctionTail (.either e right) steps
    else return e

def conjunction : (steps : Nat) → Parse Expr
  | 0 => outOfSteps
  | steps + 1 => do
    let e ← negation steps
    conjunctionTail e steps

def conjunctionTail (e : Expr) : (steps : Nat) → Parse Expr
  | 0 => outOfSteps
  | steps + 1 => do
    if ← skipIf (.name "and") then
      let right ← negation steps
      conjunctionTail (.both e right) steps
    else return e

def negation : (steps : Nat) → Parse Expr
  | 0 => outOfSteps
  | steps + 1 => do
    if ← skipIf (.name "not") then return .negation (← negation steps) else comparison steps

def comparison : (steps : Nat) → Parse Expr
  | 0 => outOfSteps
  | steps + 1 => do
    let e ← sum steps
    match ← relations [] steps with
    | [] => return e
    | rest => return .compare e rest

def relations (found : List (Relation × Expr)) : (steps : Nat) → Parse (List (Relation × Expr))
  | 0 => outOfSteps
  | steps + 1 => do
    let here ← kind
    match relation? here with
    | some r =>
      discard advance
      let e ← sum steps
      relations (found ++ [(r, e)]) steps
    | none =>
      if here.isName "in" then
        discard advance
        let e ← sum steps
        relations (found ++ [(.isIn, e)]) steps
      else if here.isName "not" then
        if (← lookAhead).isName "in" then
          discard advance
          discard advance
          let e ← sum steps
          relations (found ++ [(.notIn, e)]) steps
        else return found
      else return found

def sum : (steps : Nat) → Parse Expr
  | 0 => outOfSteps
  | steps + 1 => do
    let e ← joining steps
    sumTail e steps

def sumTail (e : Expr) : (steps : Nat) → Parse Expr
  | 0 => outOfSteps
  | steps + 1 => do
    match sum? (← kind) with
    | some op =>
      discard advance
      let right ← joining steps
      sumTail (.binary op e right) steps
    | none => return e

def joining : (steps : Nat) → Parse Expr
  | 0 => outOfSteps
  | steps + 1 => do
    let e ← product steps
    match ← joiningTail [e] steps with
    | [e] => return e
    | items => return .concat items

def joiningTail (items : List Expr) : (steps : Nat) → Parse (List Expr)
  | 0 => outOfSteps
  | steps + 1 => do
    if ← skipIf (.mark .tilde) then
      let e ← product steps
      joiningTail (items ++ [e]) steps
    else return items

def product : (steps : Nat) → Parse Expr
  | 0 => outOfSteps
  | steps + 1 => do
    let e ← power steps
    productTail e steps

def productTail (e : Expr) : (steps : Nat) → Parse Expr
  | 0 => outOfSteps
  | steps + 1 => do
    match product? (← kind) with
    | some op =>
      discard advance
      let right ← power steps
      productTail (.binary op e right) steps
    | none => return e

def power : (steps : Nat) → Parse Expr
  | 0 => outOfSteps
  | steps + 1 => do
    let e ← signed true steps
    powerTail e steps

def powerTail (e : Expr) : (steps : Nat) → Parse Expr
  | 0 => outOfSteps
  | steps + 1 => do
    if ← skipIf (.mark .pow) then
      let right ← signed true steps
      powerTail (.binary .pow e right) steps
    else return e

def signed (filters : Bool) : (steps : Nat) → Parse Expr
  | 0 => outOfSteps
  | steps + 1 => do
    let e ←
      if ← skipIf (.mark .sub) then Expr.unary .negate <$> signed false steps
      else if ← skipIf (.mark .add) then Expr.unary .affirm <$> signed false steps
      else primary steps
    let e ← access e steps
    if filters then treatment e steps else return e

def primary : (steps : Nat) → Parse Expr
  | 0 => outOfSteps
  | steps + 1 => do
    match ← kind with
    | .name s =>
      discard advance
      if s == "true" || s == "True" then return .literal (.bool true)
      else if s == "false" || s == "False" then return .literal (.bool false)
      else if s == "none" || s == "None" then return .literal .none
      else return .name s
    | .string s =>
      discard advance
      return .literal (.text (← stringTail steps s))
    | .integer n =>
      discard advance
      return .literal (.int n)
    | .float x =>
      discard advance
      return .literal (.float x)
    | .mark .leftParen =>
      discard advance
      let e ← tuple { parentheses := true } steps
      expectMark .rightParen
      return e
    | .mark .leftBracket =>
      discard advance
      let items ← listItems [] steps
      expectMark .rightBracket
      return .list items
    | .mark .leftBrace =>
      discard advance
      let entries ← mappingEntries [] steps
      expectMark .rightBrace
      return .mapping entries
    | found => throw s!"unexpected {Text.quoted found.describe}"

def listItems (items : List Expr) : (steps : Nat) → Parse (List Expr)
  | 0 => outOfSteps
  | steps + 1 => do
    if ← isAtMark .rightBracket then return items
    if !items.isEmpty then expectMark .comma
    if ← isAtMark .rightBracket then return items
    let e ← expression steps
    listItems (items ++ [e]) steps

def mappingEntries (entries : List (Expr × Expr)) : (steps : Nat) → Parse (List (Expr × Expr))
  | 0 => outOfSteps
  | steps + 1 => do
    if ← isAtMark .rightBrace then return entries
    if !entries.isEmpty then expectMark .comma
    if ← isAtMark .rightBrace then return entries
    let key ← expression steps
    expectMark .colon
    let e ← expression steps
    mappingEntries (entries ++ [(key, e)]) steps

/-- Attributes, items and calls behind a value. -/
def access (e : Expr) : (steps : Nat) → Parse Expr
  | 0 => outOfSteps
  | steps + 1 => do
    match ← kind with
    | .mark .dot =>
      discard advance
      let next ← advance
      match next.kind with
      | .name s => access (.member e s) steps
      | .integer n => access (.item e (.literal (.int n))) steps
      | _ => throw "expected name or number"
    | .mark .leftBracket =>
      discard advance
      let indices ← subscripts [] steps
      expectMark .rightBracket
      match indices with
      | [index] => access (.item e index) steps
      | indices => access (.item e (.tuple indices)) steps
    | .mark .leftParen =>
      let args ← arguments steps
      access (.call e args) steps
    | _ => return e

def subscripts (found : List Expr) : (steps : Nat) → Parse (List Expr)
  | 0 => outOfSteps
  | steps + 1 => do
    if ← isAtMark .rightBracket then return found
    if !found.isEmpty then expectMark .comma
    let e ← subscript steps
    subscripts (found ++ [e]) steps

def subscript : (steps : Nat) → Parse Expr
  | 0 => outOfSteps
  | steps + 1 => do
    if ← skipIf (.mark .colon) then sliceTail none steps
    else
      let e ← expression steps
      if ← skipIf (.mark .colon) then sliceTail (some e) steps else return e

def sliceTail (start : Option Expr) : (steps : Nat) → Parse Expr
  | 0 => outOfSteps
  | steps + 1 => do
    let stop ← sliceBound steps
    let step ← if ← skipIf (.mark .colon) then sliceBound steps else pure none
    return .slice start stop step

def sliceBound : (steps : Nat) → Parse (Option Expr)
  | 0 => outOfSteps
  | steps + 1 => do
    match ← kind with
    | .mark .colon | .mark .rightBracket | .mark .comma => return none
    | _ => return some (← expression steps)

/-- The arguments of a call, in parentheses. -/
def arguments : (steps : Nat) → Parse (List (Passing × Expr))
  | 0 => outOfSteps
  | steps + 1 => do
    expectMark .leftParen
    let args ← argumentsTail [] steps
    expectMark .rightParen
    return args

def argumentsTail (args : List (Passing × Expr)) : (steps : Nat) → Parse (List (Passing × Expr))
  | 0 => outOfSteps
  | steps + 1 => do
    if ← isAtMark .rightParen then return args
    if !args.isEmpty then expectMark .comma
    if ← isAtMark .rightParen then return args
    let passing ← match ← kind with
      | .mark .mul => pure Passing.spread
      | .mark .pow => pure Passing.spreadNamed
      | .name s => if (← lookAhead) == .mark .assign then pure (Passing.named s) else pure Passing.plain
      | _ => pure Passing.plain
    if !admits args passing then throw "invalid syntax for function call expression"
    match passing with
    | .plain => pure ()
    | .named _ =>
      discard advance
      discard advance
    | _ => discard advance
    let e ← expression steps
    argumentsTail (args ++ [(passing, e)]) steps

/-- Filters, tests and calls behind a value. -/
def treatment (e : Expr) : (steps : Nat) → Parse Expr
  | 0 => outOfSteps
  | steps + 1 => do
    match ← kind with
    | .mark .pipe =>
      discard advance
      let (name, args) ← pipe steps
      treatment (.filter e name args) steps
    | .name "is" =>
      discard advance
      let e ← test e steps
      treatment e steps
    | .mark .leftParen =>
      let args ← arguments steps
      treatment (.call e args) steps
    | _ => return e

/-- The name and the arguments of a filter. -/
def pipe : (steps : Nat) → Parse (String × List (Passing × Expr))
  | 0 => outOfSteps
  | steps + 1 => do
    let first ← expectName
    let name ← dottedTail steps first
    let args ← if ← isAtMark .leftParen then arguments steps else pure []
    return (name, args)

def test (e : Expr) : (steps : Nat) → Parse Expr
  | 0 => outOfSteps
  | steps + 1 => do
    let negated ← skipIf (.name "not")
    let first ← expectName
    let name ← dottedTail steps first
    let here ← kind
    let args ←
      if here == .mark .leftParen then arguments steps
      else if startsArgument here then
        if here.isName "is" then throw "You cannot chain multiple tests with is"
        let arg ← primary steps
        let arg ← access arg steps
        pure [(Passing.plain, arg)]
      else pure []
    let result := Expr.test e name args
    return if negated then .negation result else result

end

end Parse

end WorkflowForge.Template
