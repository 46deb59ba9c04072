import WorkflowForge.Json.Value
import WorkflowForge.Text.Hex

/-!
Reading JSON text. White space is the space, tab, line feed and carriage return; `NaN`, `Infinity` and `-Infinity` are
numbers; a number with a point or an exponent is a double and any other an integer of any size. Of two fields with one
name the later value takes the earlier place. A mistake is reported with the place at which it was met.

Each step gives what it found and the characters after it. The place of a mistake is known by the number of characters
still unread there.
-/

namespace WorkflowForge

namespace Json

inductive Mistake where
  | value
  | comma
  | colon
  | name
  | extra
  | unterminated
  | control
  | escape
  | unicodeEscape
  | byteOrderMark
deriving DecidableEq, Repr

def Mistake.message : Mistake → String
  | .value => "Expecting value"
  | .comma => "Expecting ',' delimiter"
  | .colon => "Expecting ':' delimiter"
  | .name => "Expecting property name enclosed in double quotes"
  | .extra => "Extra data"
  | .unterminated => "Unterminated string starting at"
  | .control => "Invalid control character at"
  | .escape => "Invalid \\escape"
  | .unicodeEscape => "Invalid \\uXXXX escape"
  | .byteOrderMark => "Unexpected UTF-8 BOM (decode using utf-8-sig)"

/-- A mistake and the number of characters from its place to the end. -/
structure Misread where
  mistake : Mistake
  left : Nat
deriving DecidableEq, Repr

def misread {α : Type} (mistake : Mistake) (rest : List Char) : Except Misread α := .error ⟨mistake, rest.length⟩

def isSpace (c : Char) : Bool := c == ' ' || c == '\t' || c == '\n' || c == '\r'

def skipSpace (cs : List Char) : List Char := cs.dropWhile isSpace

def isHighSurrogate (n : Nat) : Bool := 0xd800 ≤ n && n < 0xdc00

def isLowSurrogate (n : Nat) : Bool := 0xdc00 ≤ n && n < 0xe000

/-- The character of a code unit; half of a surrogate pair on its own is replaced. -/
def charOfUnit (n : Nat) : Char := if 0xd800 ≤ n && n < 0xe000 then Char.ofNat 0xfffd else Char.ofNat n

def charOfPair (high low : Nat) : Char := Char.ofNat (0x10000 + (high - 0xd800) * 1024 + (low - 0xdc00))

/-- The character a short escape stands for. -/
def shortEscape? : Char → Option Char
  | '"' => some '"'
  | '\\' => some '\\'
  | '/' => some '/'
  | 'b' => some (Char.ofNat 8)
  | 'f' => some (Char.ofNat 12)
  | 'n' => some '\n'
  | 'r' => some '\r'
  | 't' => some '\t'
  | _ => none

/-- Puts a character in front of a string that was read. -/
def consRead (c : Char) : Except Misread (List Char × List Char) → Except Misread (List Char × List Char)
  | .ok (cs, rest) => .ok (c :: cs, rest)
  | .error e => .error e

/-- The rest of a string whose opening quote has `start` characters from it to the end. -/
def readString (start : Nat) : List Char → Except Misread (List Char × List Char)
  | [] => .error ⟨.unterminated, start⟩
  | '"' :: rest => .ok ([], rest)
  | '\\' :: [] => .error ⟨.unterminated, start⟩
  | '\\' :: 'u' :: a :: b :: c :: d :: rest =>
    if rest.isEmpty then misread .unicodeEscape ('u' :: a :: b :: c :: d :: rest)
    else
      match Text.hexNumber? [a, b, c, d] with
      | none => misread .unicodeEscape ('u' :: a :: b :: c :: d :: rest)
      | some unit =>
        match rest with
        | '\\' :: 'u' :: e :: f :: g :: h :: more =>
          if isHighSurrogate unit && !more.isEmpty then
            match Text.hexNumber? [e, f, g, h] with
            | none => misread .unicodeEscape ('u' :: e :: f :: g :: h :: more)
            | some second =>
              if isLowSurrogate second then consRead (charOfPair unit second) (readString start more)
              else consRead (charOfUnit unit) (readString start ('\\' :: 'u' :: e :: f :: g :: h :: more))
          else consRead (charOfUnit unit) (readString start ('\\' :: 'u' :: e :: f :: g :: h :: more))
        | rest => consRead (charOfUnit unit) (readString start rest)
  | '\\' :: 'u' :: rest => misread .unicodeEscape ('u' :: rest)
  | '\\' :: c :: rest =>
    match shortEscape? c with
    | some e => consRead e (readString start rest)
    | none => misread .escape ('\\' :: c :: rest)
  | c :: rest => if c.toNat < 32 then misread .control (c :: rest) else consRead c (readString start rest)
termination_by cs => cs.length

def isDigit (c : Char) : Bool := '0' ≤ c && c ≤ '9'

def digitsValue (cs : List Char) : Nat := cs.foldl (fun n c => n * 10 + (c.toNat - 48)) 0

/-- The digits of a whole part: one zero, or digits that start with another. -/
def wholeDigits? (cs : List Char) : Option (List Char × List Char) :=
  match cs with
  | '0' :: rest => some (['0'], rest)
  | c :: rest => if isDigit c then some (c :: rest.takeWhile isDigit, rest.dropWhile isDigit) else none
  | [] => none

/-- The digits after a point, if a point with a digit after it comes next. -/
def fractionDigits (cs : List Char) : List Char × List Char :=
  match cs with
  | '.' :: rest => if (rest.takeWhile isDigit).isEmpty then ([], cs) else (rest.takeWhile isDigit, rest.dropWhile isDigit)
  | _ => ([], cs)

def signOf (cs : List Char) : Bool × List Char :=
  match cs with
  | '-' :: rest => (true, rest)
  | '+' :: rest => (false, rest)
  | _ => (false, cs)

/-- The exponent, if a mark with a digit after it comes next. -/
def exponentDigits (cs : List Char) : Option Int × List Char :=
  match cs with
  | c :: rest =>
    if c == 'e' || c == 'E' then
      let (negative, rest) := signOf rest
      let digits := rest.takeWhile isDigit
      if digits.isEmpty then (none, cs)
      else
        let size : Int := digitsValue digits
        (some (if negative then -size else size), rest.dropWhile isDigit)
    else (none, cs)
  | [] => (none, cs)

/-- A number without its sign. -/
def readMagnitude? (negative : Bool) (cs : List Char) : Option (Json × List Char) :=
  (wholeDigits? cs).map fun (whole, rest) =>
    let (fraction, rest) := fractionDigits rest
    let (exponent, rest) := exponentDigits rest
    if fraction.isEmpty && exponent.isNone then
      let n : Int := digitsValue whole
      (.int (if negative then -n else n), rest)
    else
      let power := exponent.getD 0 - fraction.length
      (.float (Double.ofDecimal negative (digitsValue (whole ++ fraction)) power), rest)

def readNumber? (cs : List Char) : Option (Json × List Char) :=
  match cs with
  | '-' :: rest => readMagnitude? true rest
  | _ => readMagnitude? false cs

/-- The rest of the text after a word, if it begins with it. -/
def after? (word : List Char) (cs : List Char) : Option (List Char) :=
  if word.isPrefixOf cs then some (cs.drop word.length) else none

/-- The values with names of their own. -/
def words : List (List Char × Json) :=
  [("null".toList, .null), ("true".toList, .bool true), ("false".toList, .bool false),
    ("NaN".toList, .float Double.nan), ("Infinity".toList, .float (Double.infinity false)),
    ("-Infinity".toList, .float (Double.infinity true))]

/-- A value that is neither a string nor a collection. -/
def readScalar (cs : List Char) : Except Misread (Json × List Char) :=
  match words.findSome? fun (word, v) => (after? word cs).map (v, ·) with
  | some found => .ok found
  | none =>
    match readNumber? cs with
    | some found => .ok found
    | none => misread .value cs

mutual

def readValue : (fuel : Nat) → List Char → Except Misread (Json × List Char)
  | 0, cs => misread .value cs
  | fuel + 1, cs =>
    match cs with
    | '"' :: rest => (readString cs.length rest).map fun (s, rest) => (.string (String.ofList s), rest)
    | '[' :: rest =>
      match skipSpace rest with
      | ']' :: rest => .ok (.array [], rest)
      | rest => (readItems fuel rest).map fun (items, rest) => (.array items, rest)
    | '\x7b' :: rest =>
      match skipSpace rest with
      | '\x7d' :: rest => .ok (.object [], rest)
      | rest => (readFields fuel rest).map fun (fields, rest) => (.object (Fields.merged fields), rest)
    | _ => readScalar cs

/-- Items up to and with the closing bracket. -/
def readItems : (fuel : Nat) → List Char → Except Misread (List Json × List Char)
  | 0, cs => misread .value cs
  | fuel + 1, cs => do
    let (v, rest) ← readValue fuel cs
    match skipSpace rest with
    | ']' :: rest => return ([v], rest)
    | ',' :: rest =>
      let (items, rest) ← readItems fuel (skipSpace rest)
      return (v :: items, rest)
    | rest => misread .comma rest

/-- Fields up to and with the closing brace. -/
def readFields : (fuel : Nat) → List Char → Except Misread (List (String × Json) × List Char)
  | 0, cs => misread .value cs
  | fuel + 1, cs =>
    match cs with
    | '"' :: rest => do
      let (name, rest) ← readString cs.length rest
      match skipSpace rest with
      | ':' :: rest =>
        let (v, rest) ← readValue fuel (skipSpace rest)
        match skipSpace rest with
        | '\x7d' :: rest => return ([(String.ofList name, v)], rest)
        | ',' :: rest =>
          let (fields, rest) ← readFields fuel (skipSpace rest)
          return ((String.ofList name, v) :: fields, rest)
        | rest => misread .comma rest
      | rest => misread .colon rest
    | _ => misread .name cs

end

/-- A whole text as one value. -/
def readChars (cs : List Char) : Except Misread Json := do
  if cs.head? == some (Char.ofNat 0xfeff) then misread .byteOrderMark cs
  else
    let (v, rest) ← readValue (2 * cs.length + 2) (skipSpace cs)
    match skipSpace rest with
    | [] => return v
    | rest => misread .extra rest

/-- A mistake in a text, with its place counted from the start. -/
structure ReadError where
  mistake : Mistake
  offset : Nat
  line : Nat
  column : Nat
deriving DecidableEq, Repr

def ReadError.message (e : ReadError) : String :=
  s!"{e.mistake.message}: line {e.line} column {e.column} (char {e.offset})"

def Misread.locate (e : Misread) (cs : List Char) : ReadError :=
  let offset := cs.length - e.left
  let before := cs.take offset
  { mistake := e.mistake
    offset := offset
    line := before.count '\n' + 1
    column := (before.reverse.takeWhile (· != '\n')).length + 1 }

def read (s : String) : Except ReadError Json :=
  match readChars s.toList with
  | .ok v => .ok v
  | .error e => .error (e.locate s.toList)

end Json

end WorkflowForge
