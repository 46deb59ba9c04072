import WorkflowForge.Yaml.Token.Cursor

/-!
Reading scalars: plain ones, quoted ones and those in blocks. In plain and quoted scalars a single line break is a
space and each further one a line feed; a folded block does the same between lines that begin with no white space.
-/

namespace WorkflowForge.Yaml.Scan

/-- How a scalar in a block ends: its last line breaks are cut to one, removed or kept. -/
inductive Chomping where
  | clip
  | strip
  | keep
deriving DecidableEq, Repr

def chomping? : Char → Option Chomping
  | '+' => some .keep
  | '-' => some .strip
  | _ => none

/-- A digit that says how far a block is indented. -/
def increment? : Scan (Option Nat) := do
  let c ← peek
  if !c.isDigit then return none
  else if c == '0' then malformed
  else
    skip 1
    return some (c.toNat - 48)

/-- What stands behind the mark of a block: how it ends and how far it is indented, in either order. -/
def blockHeader : Scan (Chomping × Option Nat) := do
  let found ← match chomping? (← peek) with
    | some chomping => do
      skip 1
      pure (chomping, ← increment?)
    | none => do
      match ← increment? with
      | none => pure (.clip, none)
      | some n =>
        match chomping? (← peek) with
        | some chomping => do
          skip 1
          pure (chomping, some n)
        | none => pure (.clip, some n)
  demand isGap
  return found

/-- Passes spaces up to a column. -/
def skipToColumn (column : Nat) : Scan Unit := do
  let c ← get
  let spaces := (c.rest.takeWhile (· == ' ')).length
  skip (min spaces (column - c.column))

/-- The empty lines before the first line of a block, and the widest indentation met. -/
def blockIndentation : (steps : Nat) → Nat → Scan (List (List Char) × Nat)
  | 0, widest => return ([], widest)
  | steps + 1, widest => do
    let c ← peek
    if c == ' ' then
      skip 1
      blockIndentation steps (max widest (← get).column)
    else if isBreak c then
      let br ← lineBreak
      let (breaks, widest) ← blockIndentation steps widest
      return (br :: breaks, widest)
    else return ([], widest)

/-- The empty lines between two lines of a block. -/
def blockBreaks (indent : Nat) : (steps : Nat) → Scan (List (List Char))
  | 0 => return []
  | steps + 1 => do
    skipToColumn indent
    if isBreak (← peek) then
      let br ← lineBreak
      return br :: (← blockBreaks indent steps)
    else return []

def isSpaceOrTab (c : Char) : Bool := c == ' ' || c == '\t'

/-- The lines of a block: the text so far, the last line break and the empty lines behind it. -/
def blockLines (folded : Bool) (indent : Nat) : (steps : Nat) → List (List Char) →
    Scan (List Char × List Char × List (List Char))
  | 0, breaks => return ([], [], breaks)
  | steps + 1, breaks => do
    let c ← get
    if c.column != indent || c.peek == nul then return ([], [], breaks)
    let flush := !isSpaceOrTab c.peek
    let line ← takeWhile fun c => !isBreakOrEnd c
    let br ← lineBreak
    let next ← blockBreaks indent steps
    let c ← get
    let here := breaks.flatten ++ line
    if c.column == indent && c.peek != nul then
      let join :=
        if folded && br == ['\n'] && flush && !isSpaceOrTab c.peek then if next.isEmpty then [' '] else []
        else br
      let (text, lastBreak, tail) ← blockLines folded indent steps next
      return (here ++ join ++ text, lastBreak, tail)
    else return (here, br, next)

/-- A scalar in a block, below a collection of the given indentation. -/
def blockScalar (folded : Bool) (parentIndent : Int) : Scan Token := do
  skip 1
  let (chomping, increment) ← blockHeader
  restOfLine
  let steps := (← get).rest.length + 1
  let least := (max (parentIndent + 1) 1).toNat
  let (breaks, indent) ← match increment with
    | none => do
      let (breaks, widest) ← blockIndentation steps 0
      pure (breaks, max least widest)
    | some n => do
      let indent := least + n - 1
      pure (← blockBreaks indent steps, indent)
  let (text, lastBreak, tail) ← blockLines folded indent steps breaks
  let ending := match chomping with
    | .strip => []
    | .clip => lastBreak
    | .keep => lastBreak ++ tail.flatten
  return .scalar (String.ofList (text ++ ending)) false

/-- The line breaks that follow one inside quotes; a line that divides documents is out of place there. -/
def quotedBreaks : (steps : Nat) → Scan (List (List Char))
  | 0 => return []
  | steps + 1 => do
    if (← get).isDivider then malformed
    discard (takeWhile isSpaceOrTab)
    if isBreak (← peek) then
      let br ← lineBreak
      return br :: (← quotedBreaks steps)
    else return []

/-- What a run of line breaks stands for. -/
def folded (first : List Char) (more : List (List Char)) : List Char :=
  (if first != ['\n'] then first else if more.isEmpty then [' '] else []) ++ more.flatten

/-- White space inside quotes. -/
def quotedSpaces : Scan (List Char) := do
  let spaces ← takeWhile isSpaceOrTab
  let c ← peek
  if c == nul then malformed
  else if isBreak c then
    let first ← lineBreak
    return folded first (← quotedBreaks ((← get).rest.length + 1))
  else return spaces

/-- The characters that stand for one other behind a backslash. -/
def escape? : Char → Option Char
  | '0' => some nul
  | 'a' => some (Char.ofNat 7)
  | 'b' => some (Char.ofNat 8)
  | 't' | '\t' => some '\t'
  | 'n' => some '\n'
  | 'v' => some (Char.ofNat 11)
  | 'f' => some (Char.ofNat 12)
  | 'r' => some '\r'
  | 'e' => some (Char.ofNat 27)
  | ' ' => some ' '
  | '"' => some '"'
  | '\\' => some '\\'
  | '/' => some '/'
  | 'N' => some (Char.ofNat 0x85)
  | '_' => some (Char.ofNat 0xa0)
  | 'L' => some (Char.ofNat 0x2028)
  | 'P' => some (Char.ofNat 0x2029)
  | _ => none

def escapeWidth? : Char → Option Nat
  | 'x' => some 2
  | 'u' => some 4
  | 'U' => some 8
  | _ => none

/-- An escape, from behind the backslash on. -/
def escape : Scan (List Char) := do
  let c ← peek
  match escape? c, escapeWidth? c with
  | some ch, _ =>
    skip 1
    return [ch]
  | none, some width =>
    skip 1
    let digits := (← get).rest.take width
    match digits.length == width, Text.hexNumber? digits with
    | true, some n =>
      if n ≥ Nat.pow 2 31 then throw .tooLarge
      if n > 0x10ffff then throw .badValue
      skip width
      return [Char.ofNat n]
    | _, _ => malformed
  | none, none =>
    if isBreak c then
      discard lineBreak
      return (← quotedBreaks ((← get).rest.length + 1)).flatten
    else malformed

/-- The characters inside quotes up to white space, the end or the closing quote. -/
def quotedWord (double : Bool) : (steps : Nat) → Scan (List Char)
  | 0 => return []
  | steps + 1 => do
    let plain ← takeWhile fun c => !(c == '\'' || c == '"' || c == '\\' || isWideGap c)
    let c ← get
    let ch := c.peek
    if !double && ch == '\'' && c.peekAt 1 == '\'' then
      skip 2
      return plain ++ '\'' :: (← quotedWord double steps)
    else if (double && ch == '\'') || (!double && (ch == '"' || ch == '\\')) then
      skip 1
      return plain ++ ch :: (← quotedWord double steps)
    else if double && ch == '\\' then
      skip 1
      let cs ← escape
      return plain ++ cs ++ (← quotedWord double steps)
    else return plain

def quotedTail (quote : Char) : (steps : Nat) → Scan (List Char)
  | 0 => return []
  | steps + 1 => do
    if (← peek) == quote then return []
    let spaces ← quotedSpaces
    let word ← quotedWord (quote == '"') ((← get).rest.length + 1)
    return spaces ++ word ++ (← quotedTail quote steps)

def quotedScalar : Scan Token := do
  let quote ← peek
  skip 1
  let steps := (← get).rest.length + 1
  let word ← quotedWord (quote == '"') steps
  let tail ← quotedTail quote steps
  skip 1
  return .scalar (String.ofList (word ++ tail)) false

def isFlowMark (c : Char) : Bool := c == ',' || c == '[' || c == ']' || c == '{' || c == '}'

/-- The length of the part of a plain scalar that stands on one line without a space. -/
def plainLength (inFlow : Bool) : List Char → Nat
  | [] => 0
  | c :: rest =>
    let next := (rest.head?).getD nul
    if isWideGap c || (c == ':' && (isWideGap next || (inFlow && isFlowMark next))) ||
        (inFlow && (isFlowMark c || c == '?')) then 0
    else plainLength inFlow rest + 1

/-- The line breaks that follow one in a plain scalar; none of the scalar is left where documents are divided. -/
def plainBreaks : (steps : Nat) → Scan (Option (List (List Char)))
  | 0 => return some []
  | steps + 1 => do
    let c ← peek
    if c == ' ' then
      skip 1
      plainBreaks steps
    else if isBreak c then
      let br ← lineBreak
      if (← get).isDivider then return none
      return (← plainBreaks steps).map (br :: ·)
    else return some []

/-- White space in a plain scalar, none where the scalar ends, and whether a line was ended. -/
def plainSpaces : Scan (Option (List Char) × Bool) := do
  let spaces ← takeWhile (· == ' ')
  if isBreak (← peek) then
    let first ← lineBreak
    if (← get).isDivider then return (none, true)
    match ← plainBreaks ((← get).rest.length + 1) with
    | none => return (none, true)
    | some more => return (some (folded first more), true)
  else if spaces.isEmpty then return (none, false)
  else return (some spaces, false)

/-- The text of a plain scalar, and whether a line was ended behind its last part. -/
def plainParts (inFlow : Bool) (indent : Int) : (steps : Nat) → List Char → Scan (List Char × Bool)
  | 0, _ => return ([], false)
  | steps + 1, spaces => do
    let c ← get
    let length := if c.peek == '#' then 0 else plainLength inFlow c.rest
    if length == 0 then return ([], false)
    skip length
    let part := spaces ++ c.rest.take length
    let (next, ended) ← plainSpaces
    let c ← get
    match next with
    | none => return (part, ended)
    | some next =>
      if c.peek == '#' || (!inFlow && (c.column : Int) < indent) then return (part, ended)
      let length := plainLength inFlow c.rest
      if length == 0 then return (part, ended)
      let (text, ended) ← plainParts inFlow indent steps next
      return (part ++ text, ended)

/-- A plain scalar, and whether a line was ended behind it. -/
def plainScalar (inFlow : Bool) (parentIndent : Int) : Scan (Token × Bool) := do
  let steps := (← get).rest.length + 1
  let (text, ended) ← plainParts inFlow (parentIndent + 1) steps []
  return (.scalar (String.ofList text) true, ended)

end WorkflowForge.Yaml.Scan
