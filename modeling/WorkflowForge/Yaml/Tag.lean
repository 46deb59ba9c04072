import WorkflowForge.Yaml.Token

/-!
The tags of YAML, and the tag that a plain scalar has by its form.
-/

namespace WorkflowForge.Yaml

inductive Tag where
  | null
  | bool
  | int
  | float
  | str
  | seq
  | map
  | set
  | timestamp
  | binary
  | pairs
  | merge
  | value
  | unknown
deriving DecidableEq, Repr, Inhabited

namespace Tag

/-- What the names of the tags that YAML defines begin with. -/
def standardStart : String := "tag:yaml.org,2002:"

def ofName (name : String) : Tag :=
  if standardStart.toList.isPrefixOf name.toList then
    match String.ofList (name.toList.drop standardStart.length) with
    | "null" => .null
    | "bool" => .bool
    | "int" => .int
    | "float" => .float
    | "str" => .str
    | "seq" => .seq
    | "map" => .map
    | "set" => .set
    | "timestamp" => .timestamp
    | "binary" => .binary
    | "omap" | "pairs" => .pairs
    | "merge" => .merge
    | "value" => .value
    | _ => .unknown
  else .unknown

def truthWords : List String :=
  ["yes", "Yes", "YES", "no", "No", "NO", "true", "True", "TRUE", "false", "False", "FALSE", "on", "On", "ON", "off",
    "Off", "OFF"]

def nullWords : List String := ["~", "null", "Null", "NULL", ""]

/-- The text behind a sign. -/
def unsigned : List Char → List Char
  | '-' :: rest => rest
  | '+' :: rest => rest
  | rest => rest

def isDigitOr (extra : Char) (c : Char) : Bool := c.isDigit || c == extra

/-- Parts of up to two digits below sixty, each behind a colon. -/
def isSexagesimalTail : List (List Char) → Bool
  | [] => false
  | parts => parts.all fun
    | [c] => c.isDigit
    | [c, d] => '0' ≤ c && c ≤ '5' && d.isDigit
    | _ => false

/-- The pieces between colons. -/
def colonParts (cs : List Char) : List Char × List (List Char) :=
  match cs.splitOnP (· == ':') with
  | [] => ([], [])
  | first :: rest => (first, rest)

def isInt (cs : List Char) : Bool :=
  match unsigned cs with
  | '0' :: 'b' :: rest => !rest.isEmpty && rest.all fun c => c == '0' || c == '1' || c == '_'
  | '0' :: 'x' :: rest => !rest.isEmpty && rest.all fun c => c.isDigit || c == '_' || ('a' ≤ c && c ≤ 'f') || ('A' ≤ c && c ≤ 'F')
  | '0' :: rest => rest.all fun c => ('0' ≤ c && c ≤ '7') || c == '_'
  | c :: rest =>
    c.isDigit &&
      (rest.all (isDigitOr '_') ||
        (let (first, parts) := colonParts rest
         first.all (isDigitOr '_') && isSexagesimalTail parts))
  | [] => false

/-- An exponent with its sign, or nothing. -/
def isExponent : List Char → Bool
  | [] => true
  | e :: sign :: rest =>
    (e == 'e' || e == 'E') && (sign == '-' || sign == '+') && !rest.isEmpty && rest.all Char.isDigit
  | _ => false

/-- Digits and underscores, a point, more of them and an exponent. -/
def isPointed (cs : List Char) : Bool :=
  match cs with
  | c :: rest =>
    c.isDigit &&
      (match rest.dropWhile (isDigitOr '_') with
        | '.' :: tail => isExponent (tail.dropWhile (isDigitOr '_'))
        | _ => false)
  | [] => false

/-- A sexagesimal number with a fraction. -/
def isPointedSexagesimal (cs : List Char) : Bool :=
  match cs with
  | c :: rest =>
    let body := rest.takeWhile (· != '.')
    let (first, parts) := colonParts body
    c.isDigit && first.all (isDigitOr '_') && isSexagesimalTail parts &&
      (match rest.dropWhile (· != '.') with
        | '.' :: tail => tail.all (isDigitOr '_')
        | _ => false)
  | [] => false

def isFloat (cs : List Char) : Bool :=
  let body := unsigned cs
  let text := String.ofList body
  isPointed body || isPointedSexagesimal body || [".inf", ".Inf", ".INF"].contains text ||
    [".nan", ".NaN", ".NAN"].contains (String.ofList cs) ||
    (match cs with
      | '.' :: c :: rest => c.isDigit && isExponent (rest.dropWhile (isDigitOr '_'))
      | _ => false)

end Tag

/-- The parts of a moment or date, as they are written. -/
structure MomentParts where
  year : Nat
  month : Nat
  day : Nat
  time : Option (Nat × Nat × Nat)
  fraction : List Char
  /-- Sign, hours and minutes of the distance from universal time. -/
  zone : Option (Bool × Nat × Nat)

namespace MomentParts

def number (cs : List Char) : Nat := cs.foldl (fun n c => n * 10 + (c.toNat - 48)) 0

/-- Between so many digits, and the rest. -/
def digits? (least most : Nat) (cs : List Char) : Option (List Char × List Char) :=
  let found := (cs.take most).takeWhile Char.isDigit
  if found.length < least then none else some (found, cs.drop found.length)

def char? (c : Char) : List Char → Option (List Char)
  | d :: rest => if c == d then some rest else none
  | [] => none

def isSpaceOrTab (c : Char) : Bool := c == ' ' || c == '\t'

/-- The mark of a distance from universal time; the whole of the rest must be one. -/
def zone? (cs : List Char) : Option (Option (Bool × Nat × Nat)) := do
  match cs.dropWhile isSpaceOrTab with
  | [] => if cs.isEmpty then some none else none
  | ['Z'] => some (some (false, 0, 0))
  | sign :: rest =>
    if sign != '-' && sign != '+' then none
    else
      let (hours, rest) ← digits? 1 2 rest
      match rest with
      | [] => some (some (sign == '-', number hours, 0))
      | ':' :: rest =>
        let (minutes, rest) ← digits? 2 2 rest
        if rest.isEmpty then some (some (sign == '-', number hours, number minutes)) else none
      | _ => none

/-- The parts of a date, or of a moment, in the given text. A date alone has two digits for month and day. -/
def ofChars? (cs : List Char) : Option MomentParts := do
  let (year, rest) ← digits? 4 4 cs
  let (month, rest) ← digits? 1 2 (← char? '-' rest)
  let (day, rest) ← digits? 1 2 (← char? '-' rest)
  match rest with
  | [] => return ⟨number year, number month, number day, none, [], none⟩
  | c :: tail =>
    let afterMark := if c == 'T' || c == 't' then tail else (c :: tail).dropWhile isSpaceOrTab
    if afterMark.length == (c :: tail).length then none
    else
      let (hour, rest) ← digits? 1 2 afterMark
      let (minute, rest) ← digits? 2 2 (← char? ':' rest)
      let (second, rest) ← digits? 2 2 (← char? ':' rest)
      let (fraction, rest) := match rest with
        | '.' :: rest => (rest.takeWhile Char.isDigit, rest.dropWhile Char.isDigit)
        | rest => ([], rest)
      let zone ← zone? rest
      return ⟨number year, number month, number day, some (number hour, number minute, number second), fraction, zone⟩

/-- Whether a plain scalar is taken for a date or moment. -/
def isPlain (cs : List Char) : Bool :=
  match ofChars? cs with
  | none => false
  | some parts => parts.time.isSome || cs.length == 10

end MomentParts

namespace Tag

/-- The tag of a plain scalar. -/
def ofPlain (s : String) : Tag :=
  let cs := s.toList
  if truthWords.contains s then .bool
  else if isFloat cs then .float
  else if isInt cs then .int
  else if s == "<<" then .merge
  else if nullWords.contains s then .null
  else if MomentParts.isPlain cs then .timestamp
  else if s == "=" then .value
  else .str

end Tag

end WorkflowForge.Yaml
