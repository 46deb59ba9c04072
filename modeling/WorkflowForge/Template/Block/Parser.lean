import WorkflowForge.Template.Expr.Parser
import WorkflowForge.Template.Token.Lexer

/-!
Reading blocks from tokens. A statement that opens a body is followed by blocks up to one of the tags that end or
divide it; the tags awaited by the enclosing statements are named when the template ends too early or an unknown tag
is met.
-/

namespace WorkflowForge.Template

namespace Parse

/-- The statements around the place that is read, innermost first. -/
structure Nesting where
  /-- The tags that each open body waits for. -/
  awaited : List (List String) := []
  /-- The statements themselves. -/
  open_ : List String := []

/-- The complaint about an unknown tag, or about the end of the template where none is given. -/
def strayTag (n : Nesting) (tag : Option String) : Parse α :=
  let wanted := (n.awaited.head?).map fun tags => String.intercalate " or " (tags.map Text.quoted)
  let first := match tag with
    | none => "Unexpected end of template."
    | some name => s!"Encountered unknown tag {Text.quoted name}."
  let expected := match tag with
    | none => false
    | some name => n.awaited.any (·.contains name)
  let second := match wanted with
    | none => []
    | some tags =>
      if expected then
        [s!"You probably made a nesting mistake. Jinja is expecting this tag, but currently looking for {tags}."]
      else [s!"Jinja was looking for the following tags: {tags}."]
  let third := match n.open_ with
    | [] => []
    | name :: _ => [s!"The innermost block that needs to be closed is {Text.quoted name}."]
  throw (String.intercalate " " (first :: second ++ third))

def goal (stop : Option String) (steps : Nat) : Parse Goal := do
  let e ← tuple { simplified := true, stop := stop } steps
  match Goal.ofExpr? e with
  | some g => return g
  | none => throw s!"can't assign to {Text.quoted e.form}"

def pipes : (steps : Nat) → Parse (List Pipe)
  | 0 => outOfSteps
  | steps + 1 => do
    if ← skipIf (.mark .pipe) then
      let (name, args) ← pipe steps
      return ⟨name, args⟩ :: (← pipes steps)
    else return []

/-- The expressions of a print statement. -/
def outputs (found : List Block) : (steps : Nat) → Parse (List Block)
  | 0 => outOfSteps
  | steps + 1 => do
    if ← isAt (.closing .statement) then return found
    if !found.isEmpty then expectMark .comma
    let e ← expression steps
    outputs (found ++ [.output e]) steps

def bindings (found : List (Goal × Expr)) : (steps : Nat) → Parse (List (Goal × Expr))
  | 0 => outOfSteps
  | steps + 1 => do
    if ← isAt (.closing .statement) then return found
    if !found.isEmpty then expectMark .comma
    let g ← goal none steps
    expectMark .assign
    let e ← expression steps
    bindings (found ++ [(g, e)]) steps

mutual

/-- The blocks up to one of the awaited tags, whose name is then the current token, or to the end. -/
def blocks (n : Nesting) (ends : List String) : (steps : Nat) → Parse (List Block)
  | 0 => outOfSteps
  | steps + 1 => do
    match ← kind with
    | .data text =>
      discard advance
      return .data text :: (← blocks n ends steps)
    | .opening .print =>
      discard advance
      let e ← tuple {} steps
      expect (.closing .print)
      return .output e :: (← blocks n ends steps)
    | .opening .statement =>
      discard advance
      let here ← kind
      if ends.any here.isName then return []
      let found ← statement n steps
      expect (.closing .statement)
      return found ++ (← blocks n ends steps)
    | _ => return []

/-- The body of a statement up to one of its tags. -/
def body (n : Nesting) (ends : List String) : (steps : Nat) → Parse (List Block)
  | 0 => outOfSteps
  | steps + 1 => do
    discard (skipIf (.mark .colon))
    expect (.closing .statement)
    let found ← blocks { n with awaited := ends :: n.awaited } ends steps
    if ← isAt .ending then strayTag { n with awaited := ends :: n.awaited } none
    return found

/-- The body of a statement up to its end tag, which is passed. -/
def lastBody (n : Nesting) (ending : String) (steps : Nat) : Parse (List Block) :=
  match steps with
  | 0 => outOfSteps
  | steps + 1 => do
    let found ← body n [ending] steps
    discard advance
    return found

def statement (n : Nesting) : (steps : Nat) → Parse (List Block)
  | 0 => outOfSteps
  | steps + 1 => do
    match ← kind with
    | .name tag =>
      let inner := { n with open_ := tag :: n.open_ }
      match tag with
      | "for" =>
        discard advance
        let g ← goal (some "in") steps
        expect (.name "in")
        let items ← tuple { choices := false, stop := some "recursive" } steps
        let test ← if ← skipIf (.name "if") then some <$> expression steps else pure none
        discard (skipIf (.name "recursive"))
        let found ← body inner ["endfor", "else"] steps
        let next ← advance
        let otherwise ← if next.kind.isName "endfor" then pure [] else lastBody inner "endfor" steps
        return [.loop g items test found otherwise]
      | "if" =>
        discard advance
        let (arms, otherwise) ← arms inner steps
        return [.branch arms otherwise]
      | "set" =>
        discard advance
        let g ← goal none steps
        if ← skipIf (.mark .assign) then
          let e ← tuple {} steps
          return [.assign g e]
        else
          let ps ← pipes steps
          let found ← lastBody inner "endset" steps
          return [.capture g ps found]
      | "print" =>
        discard advance
        outputs [] steps
      | "with" =>
        discard advance
        let bs ← bindings [] steps
        let found ← lastBody inner "endwith" steps
        return [.scope bs found]
      | "filter" =>
        discard advance
        let (name, args) ← pipe steps
        let ps ← pipes steps
        let found ← lastBody inner "endfilter" steps
        return [.filtered (⟨name, args⟩ :: ps) found]
      | tag => strayTag n (some tag)
    | _ => throw "tag name expected"

/-- The arms of a branch and what is taken when none of them is. -/
def arms (n : Nesting) : (steps : Nat) → Parse (List (Expr × List Block) × List Block)
  | 0 => outOfSteps
  | steps + 1 => do
    let test ← tuple { choices := false } steps
    let found ← body n ["elif", "else", "endif"] steps
    let next ← advance
    if next.kind.isName "elif" then
      let (rest, otherwise) ← arms n steps
      return ((test, found) :: rest, otherwise)
    else if next.kind.isName "else" then
      let otherwise ← lastBody n "endif" steps
      return ([(test, found)], otherwise)
    else return ([(test, found)], [])

end

end Parse

namespace Block

/-- The blocks of a template, or the complaint about its form. -/
def parse (source : String) : Except String (List Block) :=
  let tokens := Token.scan source
  let steps := 40 * (tokens.length + 2)
  ((do Parse.settle; Parse.blocks {} [] steps : Parse (List Block)).run tokens).map (·.1)

end Block

end WorkflowForge.Template
