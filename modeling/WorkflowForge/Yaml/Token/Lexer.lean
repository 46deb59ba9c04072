import WorkflowForge.Yaml.Token.Scalar

/-!
Reading a text into tokens. Outside brackets the structure follows from indentation: a collection begins where a line
is indented further than the one around it and ends where a line is indented less. A key on one line is known as such
only by the colon behind it, so the place of every token that may be a key is kept until it is known.
-/

namespace WorkflowForge.Yaml

/-- A token that may turn out to be a key. -/
structure PossibleKey where
  /-- How many tokens stand before it. -/
  position : Nat
  /-- Whether nothing else can stand there. -/
  required : Bool
  index : Nat
  line : Nat
  column : Nat

structure Lexer where
  cursor : Cursor
  /-- The tokens read, the last first. -/
  tokens : List Token
  flowLevel : Nat
  indent : Int
  indents : List Int
  /-- Whether a key may begin here. -/
  keyAllowed : Bool
  /-- The possible key on each level of brackets. -/
  keys : List (Nat × PossibleKey)
  done : Bool

namespace Lexer

def start (cs : List Char) : Lexer := ⟨Cursor.start cs, [], 0, -1, [], true, [], false⟩

def push (l : Lexer) (t : Token) : Lexer := { l with tokens := t :: l.tokens }

/-- Puts a token behind so many others. -/
def insertAt (l : Lexer) (position : Nat) (t : Token) : Lexer :=
  let newer := l.tokens.length - position
  { l with tokens := l.tokens.take newer ++ t :: l.tokens.drop newer }

/-- Runs a step of reading at the lexer's place. -/
def scan (l : Lexer) (step : Scan α) : Except Mistake (α × Lexer) := do
  let (a, cursor) ← step.run l.cursor
  return (a, { l with cursor := cursor })

def skip (l : Lexer) (n : Nat) : Lexer := { l with cursor := l.cursor.forward n }

/-- Passes white space and comments up to the next token. -/
def toNextToken : (steps : Nat) → Lexer → Except Mistake Lexer
  | 0, l => return l
  | steps + 1, l => do
    let (br, l) ← l.scan do
      if (← get).index == 0 && (← Scan.peek) == byteOrderMark then Scan.skip 1
      Scan.skipSpaces
      if (← Scan.peek) == '#' then discard (Scan.takeWhile fun c => !isBreakOrEnd c)
      Scan.lineBreak
    if br.isEmpty then return l
    else toNextToken steps (if l.flowLevel == 0 then { l with keyAllowed := true } else l)

/-- Gives up the possible keys that end too late; one that had to be a key is a mistake. -/
def dropStaleKeys (l : Lexer) : Except Mistake Lexer := do
  let isStale (k : PossibleKey) := k.line != l.cursor.line || l.cursor.index - k.index > 1024
  if l.keys.any fun (_, k) => isStale k && k.required then throw .malformed
  return { l with keys := l.keys.filter fun (_, k) => !isStale k }

/-- Gives up the possible key on the current level. -/
def dropKey (l : Lexer) : Except Mistake Lexer := do
  if l.keys.any fun (level, k) => level == l.flowLevel && k.required then throw .malformed
  return { l with keys := l.keys.filter fun (level, _) => level != l.flowLevel }

/-- Keeps the place of the next token as that of a possible key. -/
def saveKey (l : Lexer) : Except Mistake Lexer := do
  if !l.keyAllowed then return l
  let required := l.flowLevel == 0 && l.indent == l.cursor.column
  let l ← l.dropKey
  let k : PossibleKey := ⟨l.tokens.length, required, l.cursor.index, l.cursor.line, l.cursor.column⟩
  return { l with keys := (l.flowLevel, k) :: l.keys }

/-- Ends the collections that are indented further than a column. -/
def unwindFrom (column : Int) : List Int → Lexer → Lexer
  | [], l => l
  | outer :: indents, l =>
    if l.indent > column then unwindFrom column indents { l.push .blockEnd with indent := outer, indents := indents }
    else l

def unwind (l : Lexer) (column : Int) : Lexer := if l.flowLevel != 0 then l else unwindFrom column l.indents l

/-- Opens a deeper level of indentation where the column is one; the answer says whether it is. -/
def deepen (l : Lexer) (column : Int) : Bool × Lexer :=
  if l.indent < column then (true, { l with indent := column, indents := l.indent :: l.indents }) else (false, l)

/-- Reads a token that ends all collections. -/
def atDocumentLevel (l : Lexer) : Except Mistake Lexer := do
  let l ← (l.unwind (-1)).dropKey
  return { l with keyAllowed := false }

def streamEnd (l : Lexer) : Except Mistake Lexer := do
  let l ← l.atDocumentLevel
  return { l.push .streamEnd with keys := [], done := true }

def directive (l : Lexer) : Except Mistake Lexer := do
  let (t, l) ← (← l.atDocumentLevel).scan Scan.directive
  return l.push t

def divider (l : Lexer) (t : Token) : Except Mistake Lexer := return (← l.atDocumentLevel).skip 3 |>.push t

def flowStart (l : Lexer) (t : Token) : Except Mistake Lexer := do
  let l ← l.saveKey
  return { l.skip 1 |>.push t with flowLevel := l.flowLevel + 1, keyAllowed := true }

def flowEnd (l : Lexer) (t : Token) : Except Mistake Lexer := do
  let l ← l.dropKey
  return { l.skip 1 |>.push t with flowLevel := l.flowLevel - 1, keyAllowed := false }

def flowEntry (l : Lexer) : Except Mistake Lexer := do
  let l ← l.dropKey
  return { l.skip 1 |>.push .flowEntry with keyAllowed := true }

/-- Begins a collection of the given kind at the current column unless it is open; outside brackets this needs a
place where a key may begin. -/
def openBlock (l : Lexer) (t : Token) : Except Mistake Lexer := do
  if l.flowLevel != 0 then return l
  if !l.keyAllowed then throw .malformed
  let (opened, l) := l.deepen l.cursor.column
  return if opened then l.push t else l

def blockEntry (l : Lexer) : Except Mistake Lexer := do
  let l ← l.openBlock .blockSequenceStart
  let l ← { l with keyAllowed := true }.dropKey
  return l.skip 1 |>.push .blockEntry

def key (l : Lexer) : Except Mistake Lexer := do
  let l ← l.openBlock .blockMappingStart
  let l ← { l with keyAllowed := l.flowLevel == 0 }.dropKey
  return l.skip 1 |>.push .key

/-- A colon: what was possibly a key now is one, or the value belongs to a key that was marked. -/
def value (l : Lexer) : Except Mistake Lexer := do
  match l.keys.lookup l.flowLevel with
  | some k =>
    let l := { l with keys := l.keys.filter fun (level, _) => level != l.flowLevel }
    let l := l.insertAt k.position .key
    let (opened, l) := if l.flowLevel == 0 then l.deepen k.column else (false, l)
    let l := if opened then l.insertAt k.position .blockMappingStart else l
    return { l.skip 1 |>.push .value with keyAllowed := false }
  | none =>
    let l ← l.openBlock .blockMappingStart
    let l ← { l with keyAllowed := l.flowLevel == 0 }.dropKey
    return l.skip 1 |>.push .value

/-- Reads a token that may be a key, or be a part of one. -/
def keyPart (l : Lexer) (step : Scan Token) : Except Mistake Lexer := do
  let l ← l.saveKey
  let (t, l) ← { l with keyAllowed := false }.scan step
  return l.push t

def blockScalar (l : Lexer) (folded : Bool) : Except Mistake Lexer := do
  let l ← { l with keyAllowed := true }.dropKey
  let (t, l) ← l.scan (Scan.blockScalar folded l.indent)
  return l.push t

def plainScalar (l : Lexer) : Except Mistake Lexer := do
  let l ← l.saveKey
  let ((t, ended), l) ← l.scan (Scan.plainScalar (l.flowLevel != 0) l.indent)
  return { l.push t with keyAllowed := ended }

/-- Whether a plain scalar may begin here. -/
def startsPlain (l : Lexer) : Bool :=
  let c := l.cursor.peek
  let reserved := isWideGap c || "-?:,[]\x7b\x7d#&*!|>'\"%@`".toList.contains c
  !reserved || (!isWideGap (l.cursor.peekAt 1) && (c == '-' || (l.flowLevel == 0 && (c == '?' || c == ':'))))

/-- Reads the next token, and those that its indentation implies. -/
def next (l : Lexer) : Except Mistake Lexer := do
  let l ← toNextToken (l.cursor.rest.length + 1) l
  let l ← l.dropStaleKeys
  let l := l.unwind l.cursor.column
  let c := l.cursor.peek
  let gapFollows := isWideGap (l.cursor.peekAt 1)
  let inFlow := l.flowLevel != 0
  let atDivider := l.cursor.column == 0 && l.cursor.isDivider
  if c == nul then l.streamEnd
  else if c == '%' && l.cursor.column == 0 then l.directive
  else if c == '-' && atDivider then l.divider .documentStart
  else if c == '.' && atDivider then l.divider .documentEnd
  else if c == '[' then l.flowStart .flowSequenceStart
  else if c == '{' then l.flowStart .flowMappingStart
  else if c == ']' then l.flowEnd .flowSequenceEnd
  else if c == '}' then l.flowEnd .flowMappingEnd
  else if c == ',' then l.flowEntry
  else if c == '-' && gapFollows then l.blockEntry
  else if c == '?' && (inFlow || gapFollows) then l.key
  else if c == ':' && (inFlow || gapFollows) then l.value
  else if c == '*' then l.keyPart (return .alias (← Scan.anchorName))
  else if c == '&' then l.keyPart (return .anchor (← Scan.anchorName))
  else if c == '!' then l.keyPart (return .tag (← Scan.tag))
  else if c == '|' && !inFlow then l.blockScalar false
  else if c == '>' && !inFlow then l.blockScalar true
  else if c == '\'' || c == '"' then l.keyPart Scan.quotedScalar
  else if l.startsPlain then l.plainScalar
  else throw .malformed

/-- Reads all tokens; a step for every character and one for the end are enough. -/
def run : (steps : Nat) → Lexer → List Token
  | 0, l => l.tokens.reverse
  | steps + 1, l =>
    if l.done then l.tokens.reverse
    else
      match l.next with
      | .ok l => run steps l
      | .error m => (Token.fault m :: l.tokens).reverse

end Lexer

/-- The characters a text may hold. -/
def isAllowed (c : Char) : Bool :=
  let n := c.toNat
  c == '\t' || c == '\n' || c == '\r' || (0x20 ≤ n && n ≤ 0x7e) || n == 0x85 || (0xa0 ≤ n && n ≤ 0xfffd) || n ≥ 0x10000

namespace Token

/-- The tokens of a text, the last of which is its end or a fault. -/
def scan (s : String) : List Token :=
  let cs := s.toList
  if cs.all isAllowed then Lexer.run (cs.length + 2) (Lexer.start cs) else [.fault .malformed]

end Token

end WorkflowForge.Yaml
