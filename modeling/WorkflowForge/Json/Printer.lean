import WorkflowForge.Json.Value
import WorkflowForge.Text.Hex

/-!
The text of JSON values. A layout says what stands between items and after names, how far lines are indented, and
which characters of strings are written as escapes.
-/

namespace WorkflowForge

structure Layout where
  comma : List Char
  colon : List Char
  indent : Option Nat
  /-- Whether characters outside ASCII are written as escapes. -/
  ascii : Bool
  /-- Whether the characters that open tags, entities and attributes are written as escapes. -/
  embeddable : Bool

namespace Layout

/-- Nothing between tokens. -/
def compact : Layout := ⟨[','], [':'], none, false, false⟩

/-- One line, with a space after commas and colons. -/
def oneLine : Layout := ⟨[',', ' '], [':', ' '], none, false, false⟩

/-- One item a line. -/
def indented (n : Nat) : Layout := ⟨[','], [':', ' '], some n, false, false⟩

/-- One line of ASCII that may stand in a page. -/
def embedded : Layout := ⟨[',', ' '], [':', ' '], none, true, true⟩

/-- The layout of written files. -/
def ofIndent : Option Nat → Layout
  | none => oneLine
  | some n => indented n

/-- What stands before an item at the given depth. -/
def lineBreak (l : Layout) (depth : Nat) : List Char :=
  match l.indent with
  | none => []
  | some n => '\n' :: List.replicate (n * depth) ' '

end Layout

namespace Json

def unicodeEscape (n : Nat) : List Char := '\\' :: 'u' :: Text.hexDigits 4 n

/-- One character of a string. -/
def charText (l : Layout) (c : Char) : List Char :=
  let n := c.toNat
  if c == '"' then ['\\', '"']
  else if c == '\\' then ['\\', '\\']
  else if c == '\n' then ['\\', 'n']
  else if c == '\r' then ['\\', 'r']
  else if c == '\t' then ['\\', 't']
  else if n == 8 then ['\\', 'b']
  else if n == 12 then ['\\', 'f']
  else if n < 32 then unicodeEscape n
  else if l.embeddable && (c == '<' || c == '>' || c == '&' || c == '\'') then unicodeEscape n
  else if l.ascii && n ≥ 127 then
    if n < 0x10000 then unicodeEscape n
    else unicodeEscape (0xd800 + (n - 0x10000) / 1024) ++ unicodeEscape (0xdc00 + (n - 0x10000) % 1024)
  else [c]

def stringText (l : Layout) (s : String) : List Char := '"' :: s.toList.flatMap (charText l) ++ ['"']

def intText (n : Int) : List Char :=
  if n < 0 then '-' :: Double.digitChars n.natAbs else Double.digitChars n.natAbs

def floatText (x : Double) : List Char :=
  let sign := if x.isNegative then ['-'] else []
  if x.isNaN then "NaN".toList
  else if x.isInfinite then sign ++ "Infinity".toList
  else sign ++ Double.magnitudeChars Double.plainStyle x.shortest

mutual

/-- The characters of a value whose own lines are at the given depth. -/
def chars (l : Layout) (depth : Nat) : Json → List Char
  | .null => "null".toList
  | .bool true => "true".toList
  | .bool false => "false".toList
  | .int n => intText n
  | .float x => floatText x
  | .string s => stringText l s
  | .array [] => ['[', ']']
  | .array (v :: rest) => '[' :: l.lineBreak (depth + 1) ++ chars l (depth + 1) v ++ itemChars l depth rest
  | .object [] => ['\x7b', '\x7d']
  | .object ((name, v) :: rest) =>
    '\x7b' :: l.lineBreak (depth + 1) ++ stringText l name ++ l.colon ++ chars l (depth + 1) v ++
      fieldChars l depth rest

/-- The items after the first one, and the closing bracket. -/
def itemChars (l : Layout) (depth : Nat) : List Json → List Char
  | [] => l.lineBreak depth ++ [']']
  | v :: rest => l.comma ++ l.lineBreak (depth + 1) ++ chars l (depth + 1) v ++ itemChars l depth rest

/-- The fields after the first one, and the closing brace. -/
def fieldChars (l : Layout) (depth : Nat) : List (String × Json) → List Char
  | [] => l.lineBreak depth ++ ['\x7d']
  | (name, v) :: rest =>
    l.comma ++ l.lineBreak (depth + 1) ++ stringText l name ++ l.colon ++ chars l (depth + 1) v ++
      fieldChars l depth rest

end

def text (l : Layout) (v : Json) : String := String.ofList (v.chars l 0)

end Json

end WorkflowForge
