import WorkflowForge.Text.Hex
import WorkflowForge.Yaml.Token

/-!
A place in a text with its line and column, and the small steps by which a text is read. Behind the end there is
nothing but zero characters.
-/

namespace WorkflowForge.Yaml

/-- The character met behind the end. -/
def nul : Char := Char.ofNat 0

def byteOrderMark : Char := Char.ofNat 0xfeff

/-- The characters that end a line. -/
def isBreak (c : Char) : Bool :=
  c == '\n' || c == '\r' || c.toNat == 0x85 || c.toNat == 0x2028 || c.toNat == 0x2029

def isBreakOrEnd (c : Char) : Bool := isBreak c || c == nul

/-- Space, line break or end. -/
def isGap (c : Char) : Bool := c == ' ' || isBreakOrEnd c

/-- Space, tab, line break or end. -/
def isWideGap (c : Char) : Bool := isGap c || c == '\t'

def isNameChar (c : Char) : Bool := c.isAlphanum || c == '-' || c == '_'

structure Cursor where
  rest : List Char
  index : Nat
  line : Nat
  column : Nat
deriving Inhabited

namespace Cursor

def start (cs : List Char) : Cursor := ⟨cs, 0, 0, 0⟩

def peekAt (c : Cursor) (k : Nat) : Char := (c.rest[k]?).getD nul

def peek (c : Cursor) : Char := c.peekAt 0

/-- Passes so many characters. -/
def forward (c : Cursor) : Nat → Cursor
  | 0 => c
  | n + 1 =>
    match c.rest with
    | [] => c
    | ch :: rest =>
      let ends := isBreak ch && !(ch == '\r' && rest.head? == some '\n')
      let next : Cursor :=
        if ends then ⟨rest, c.index + 1, c.line + 1, 0⟩
        else if ch == byteOrderMark then ⟨rest, c.index + 1, c.line, c.column⟩
        else ⟨rest, c.index + 1, c.line, c.column + 1⟩
      forward next n

/-- Whether a line that begins here divides documents. -/
def isDivider (c : Cursor) : Bool :=
  (c.rest.take 3 == ['-', '-', '-'] || c.rest.take 3 == ['.', '.', '.']) && isWideGap (c.peekAt 3)

end Cursor

/-- A step of reading. -/
abbrev Scan := StateT Cursor (Except Mistake)

namespace Scan

def peek : Scan Char := return (← get).peek

def skip (n : Nat) : Scan Unit := modify fun c => c.forward n

def malformed : Scan α := throw .malformed

def demand (ok : Char → Bool) : Scan Unit := do if ok (← peek) then return else malformed

/-- The characters up to the first that is not wanted. -/
def takeWhile (wanted : Char → Bool) : Scan (List Char) := do
  let cs := (← get).rest.takeWhile wanted
  skip cs.length
  return cs

def skipSpaces : Scan Unit := discard (takeWhile (· == ' '))

/-- Passes one line break and gives what it stands for; nothing where there is none. -/
def lineBreak : Scan (List Char) := do
  let c ← get
  let ch := c.peek
  if ch == '\r' && c.peekAt 1 == '\n' then
    skip 2
    return ['\n']
  else if ch == '\r' || ch == '\n' || ch.toNat == 0x85 then
    skip 1
    return ['\n']
  else if ch.toNat == 0x2028 || ch.toNat == 0x2029 then
    skip 1
    return [ch]
  else return []

/-- Passes the spaces and the comment that end a line. -/
def restOfLine : Scan Unit := do
  skipSpaces
  if (← peek) == '#' then discard (takeWhile fun c => !isBreakOrEnd c)
  demand isBreakOrEnd
  discard lineBreak

def name : Scan String := do
  let cs ← takeWhile isNameChar
  if cs.isEmpty then malformed else return String.ofList cs

def decimal : Scan Nat := do
  let cs ← takeWhile Char.isDigit
  if cs.isEmpty then malformed else return cs.foldl (fun n c => n * 10 + (c.toNat - 48)) 0

/-- The bytes of the escapes at the place; a step for each is enough. -/
def escapedBytes : (steps : Nat) → Scan (List UInt8)
  | 0 => return []
  | steps + 1 => do
    let c ← get
    if c.peek != '%' then return []
    match Text.hexNumber? [c.peekAt 1, c.peekAt 2] with
    | none => malformed
    | some n =>
      skip 3
      return n.toUInt8 :: (← escapedBytes steps)

def isUriChar (c : Char) : Bool := c.isAlphanum || "-;/?:@&=+$,_.!~*'()[]%".toList.contains c

def uriChunks : (steps : Nat) → Scan (List Char)
  | 0 => return []
  | steps + 1 => do
    let plain ← takeWhile fun c => isUriChar c && c != '%'
    if (← peek) == '%' then
      let bytes ← escapedBytes steps
      match String.fromUTF8? ⟨bytes.toArray⟩ with
      | none => malformed
      | some s => return plain ++ s.toList ++ (← uriChunks steps)
    else return plain

def uri : Scan String := do
  let first ← peek
  let cs ← uriChunks ((← get).rest.length + 1)
  if isUriChar first then return String.ofList cs else malformed

/-- A tag handle: a single mark, or a name between two marks. -/
def tagHandle : Scan String := do
  demand (· == '!')
  let c ← get
  if c.peekAt 1 == ' ' then
    skip 1
    return "!"
  else
    skip 1
    let cs ← takeWhile isNameChar
    demand (· == '!')
    skip 1
    return String.ofList ('!' :: cs ++ ['!'])

def directive : Scan Token := do
  skip 1
  let what ← name
  demand isGap
  let token ← match what with
    | "YAML" => do
      skipSpaces
      let major ← decimal
      demand (· == '.')
      skip 1
      discard decimal
      demand isGap
      pure (Token.versionDirective major)
    | "TAG" => do
      skipSpaces
      let handle ← tagHandle
      demand (· == ' ')
      skipSpaces
      let start ← uri
      demand isGap
      pure (Token.tagDirective handle start)
    | _ => do
      discard (takeWhile fun c => !isBreakOrEnd c)
      pure Token.otherDirective
  restOfLine
  return token

def anchorName : Scan String := do
  skip 1
  let what ← name
  demand fun c => isWideGap c || "?:,]\x7d%@`".toList.contains c
  return what

/-- Whether a second mark follows before the tag ends. -/
def hasHandle (cs : List Char) : Bool := (cs.takeWhile fun c => !isGap c).contains '!'

def tag : Scan WrittenTag := do
  let c ← get
  let next := c.peekAt 1
  let written ←
    if next == '<' then do
      skip 2
      let suffix ← uri
      demand (· == '>')
      skip 1
      pure (WrittenTag.mk none suffix)
    else if isWideGap next then do
      skip 1
      pure (WrittenTag.mk none "!")
    else do
      let handle ← if hasHandle (c.rest.drop 1) then tagHandle else do
        skip 1
        pure "!"
      pure (WrittenTag.mk (some handle) (← uri))
  demand isGap
  return written

end Scan

end WorkflowForge.Yaml
