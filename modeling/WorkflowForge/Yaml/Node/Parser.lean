import WorkflowForge.Yaml.Node
import WorkflowForge.Yaml.Token.Lexer

/-!
Reading the one document of a text. Every reader spends one step; the number of tokens bounds how many are needed.
-/

namespace WorkflowForge.Yaml

/-- What is left to read, the tag handles in force and the nodes named so far, without those still being read. -/
structure Reading where
  tokens : List Token
  handles : List (String × String)
  anchors : List (String × Option Node)

abbrev Parse := StateT Reading (Except Mistake)

namespace Parse

def malformed : Parse α := throw .malformed

/-- The next token; a fault stops the reading. -/
def current : Parse Token := do
  match (← get).tokens with
  | .fault m :: _ => throw m
  | t :: _ => return t
  | [] => return .streamEnd

def advance : Parse Unit := modify fun r => { r with tokens := r.tokens.drop 1 }

def isAt (ts : List Token) : Parse Bool := return ts.contains (← current)

def skipIf (t : Token) : Parse Bool := do
  if (← current) == t then
    advance
    return true
  else return false

def expect (t : Token) : Parse Unit := do if ← skipIf t then return else malformed

/-- A node that nothing is written for. -/
def emptyNode : Node := .scalar .null ""

/-- The name of a written tag. -/
def tagName (t : WrittenTag) : Parse String := do
  match t.handle with
  | none => return t.suffix
  | some handle =>
    match (← get).handles.lookup handle with
    | some start => return start ++ t.suffix
    | none => malformed

/-- An anchor and a tag before a node, in either order. -/
def nodeProperties : Parse (Option String × Option String) := do
  match ← current with
  | .anchor a =>
    advance
    match ← current with
    | .tag t =>
      advance
      return (some a, some (← tagName t))
    | _ => return (some a, none)
  | .tag t =>
    advance
    match ← current with
    | .anchor a =>
      advance
      return (some a, some (← tagName t))
    | _ => return (none, some (← tagName t))
  | _ => return (none, none)

/-- Names a node that is about to be read; a name is given once. -/
def announce (anchor : Option String) : Parse Unit := do
  match anchor with
  | none => return
  | some a =>
    if (← get).anchors.any (·.1 == a) then malformed
    modify fun r => { r with anchors := (a, none) :: r.anchors }

def conclude (anchor : Option String) (n : Node) : Parse Node := do
  match anchor with
  | none => return n
  | some a =>
    modify fun r => { r with anchors := r.anchors.map fun (b, m) => if b == a then (b, some n) else (b, m) }
    return n

def reference (a : String) : Parse Node := do
  match (← get).anchors.lookup a with
  | some (some n) => return n
  | some none => return .cycle
  | none => malformed

/-- The tag of a scalar: a plain one without a tag has it by its form. -/
def scalarTag (tag : Option String) (text : String) (plain : Bool) : Tag :=
  match tag with
  | none => if plain then Tag.ofPlain text else .str
  | some "!" => Tag.ofPlain text
  | some name => Tag.ofName name

def collectionTag (tag : Option String) (usual : Tag) : Tag :=
  match tag with
  | none | some "!" => usual
  | some name => Tag.ofName name

mutual

/-- A node; block collections only where allowed, and a sequence at the indentation of its key only below one. -/
def node (block below : Bool) : (steps : Nat) → Parse Node
  | 0 => malformed
  | steps + 1 => do
    match ← current with
    | .alias a =>
      advance
      reference a
    | _ =>
      let (anchor, tag) ← nodeProperties
      let here ← current
      match here with
      | .scalar text plain =>
        advance
        announce anchor
        conclude anchor (.scalar (scalarTag tag text plain) text)
      | .flowSequenceStart =>
        advance
        announce anchor
        let items ← flowItems true steps
        conclude anchor (.sequence (collectionTag tag .seq) items)
      | .flowMappingStart =>
        advance
        announce anchor
        let entries ← flowEntries true steps
        conclude anchor (.mapping (collectionTag tag .map) entries)
      | .blockSequenceStart =>
        if !block then malformed
        advance
        announce anchor
        let items ← blockItems steps
        conclude anchor (.sequence (collectionTag tag .seq) items)
      | .blockMappingStart =>
        if !block then malformed
        advance
        announce anchor
        let entries ← blockEntries steps
        conclude anchor (.mapping (collectionTag tag .map) entries)
      | _ =>
        if below && here == .blockEntry then
          announce anchor
          let items ← itemsBelowKey steps
          conclude anchor (.sequence (collectionTag tag .seq) items)
        else if anchor.isSome || tag.isSome then
          announce anchor
          conclude anchor (.scalar (scalarTag tag "" (tag.isNone)) "")
        else malformed

def blockItems : (steps : Nat) → Parse (List Node)
  | 0 => malformed
  | steps + 1 => do
    if ← skipIf .blockEntry then
      let item ← if ← isAt [.blockEntry, .blockEnd] then pure emptyNode else node true false steps
      return item :: (← blockItems steps)
    else
      expect .blockEnd
      return []

/-- The items of a sequence that is not indented further than its key. -/
def itemsBelowKey : (steps : Nat) → Parse (List Node)
  | 0 => malformed
  | steps + 1 => do
    if ← skipIf .blockEntry then
      let item ← if ← isAt [.blockEntry, .key, .value, .blockEnd] then pure emptyNode else node true false steps
      return item :: (← itemsBelowKey steps)
    else return []

def blockEntries : (steps : Nat) → Parse (List (Node × Node))
  | 0 => malformed
  | steps + 1 => do
    let here ← current
    if here == .key || here == .value then
      let key ←
        if ← skipIf .key then
          if ← isAt [.key, .value, .blockEnd] then pure emptyNode else node true true steps
        else malformed
      let value ←
        if ← skipIf .value then
          if ← isAt [.key, .value, .blockEnd] then pure emptyNode else node true true steps
        else pure emptyNode
      return (key, value) :: (← blockEntries steps)
    else
      expect .blockEnd
      return []

def flowItems (first : Bool) : (steps : Nat) → Parse (List Node)
  | 0 => malformed
  | steps + 1 => do
    if ← skipIf .flowSequenceEnd then return []
    if !first then expect .flowEntry
    if ← skipIf .flowSequenceEnd then return []
    if ← skipIf .key then
      let key ←
        if ← isAt [.value, .flowEntry, .flowSequenceEnd] then pure emptyNode else node false false steps
      let value ←
        if ← skipIf .value then
          if ← isAt [.flowEntry, .flowSequenceEnd] then pure emptyNode else node false false steps
        else pure emptyNode
      return .mapping .map [(key, value)] :: (← flowItems false steps)
    else
      let item ← node false false steps
      return item :: (← flowItems false steps)

def flowEntries (first : Bool) : (steps : Nat) → Parse (List (Node × Node))
  | 0 => malformed
  | steps + 1 => do
    if ← skipIf .flowMappingEnd then return []
    if !first then expect .flowEntry
    if ← skipIf .flowMappingEnd then return []
    if ← skipIf .key then
      let key ←
        if ← isAt [.value, .flowEntry, .flowMappingEnd] then pure emptyNode else node false false steps
      let value ←
        if ← skipIf .value then
          if ← isAt [.flowEntry, .flowMappingEnd] then pure emptyNode else node false false steps
        else pure emptyNode
      return (key, value) :: (← flowEntries false steps)
    else
      let key ← node false false steps
      return (key, emptyNode) :: (← flowEntries false steps)

end

def defaultHandles : List (String × String) := [("!", "!"), ("!!", Tag.standardStart)]

/-- The directives before a document: at most one version, and each handle at most once. -/
def directives : (steps : Nat) → (versioned : Bool) → List (String × String) → Parse (List (String × String))
  | 0, _, handles => return handles
  | steps + 1, versioned, handles => do
    match ← current with
    | .versionDirective major =>
      if versioned || major != 1 then malformed
      advance
      directives steps true handles
    | .tagDirective handle start =>
      if handles.any (·.1 == handle) then malformed
      advance
      directives steps versioned ((handle, start) :: handles)
    | .otherDirective =>
      advance
      directives steps versioned handles
    | _ => return handles

def isDirective : Token → Bool
  | .versionDirective _ | .tagDirective _ _ | .otherDirective | .documentStart => true
  | _ => false

def skipDocumentEnds : (steps : Nat) → Parse Unit
  | 0 => return
  | steps + 1 => do if ← skipIf .documentEnd then skipDocumentEnds steps

/-- The only document of a text; there is none in a text without content. -/
def document (steps : Nat) : Parse (Option Node) := do
  let first ← current
  if first == .streamEnd then return none
  let root ←
    if isDirective first then do
      let handles ← directives steps false []
      modify fun r => { r with handles := handles ++ defaultHandles }
      expect .documentStart
      match ← current with
      | .documentEnd | .streamEnd => pure emptyNode
      | t => if isDirective t then pure emptyNode else node true false steps
    else node true false steps
  skipDocumentEnds steps
  if (← current) == .streamEnd then return some root else malformed

end Parse

namespace Node

/-- The root node of a text that holds at most one document. -/
def parse (s : String) : Except Mistake (Option Node) :=
  let tokens := Token.scan s
  let steps := 4 * (tokens.length + 4)
  ((Parse.document steps).run ⟨tokens, Parse.defaultHandles, []⟩).map (·.1)

end Node

end WorkflowForge.Yaml
