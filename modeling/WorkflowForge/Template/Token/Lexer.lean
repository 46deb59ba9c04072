import WorkflowForge.Template.Token
import WorkflowForge.Text.Blank
import WorkflowForge.Text.Identifier
import WorkflowForge.Text.Lines

/-!
Reading a template into tokens. Outside tags everything is plain text; a minus sign at a tag's edge removes the white
space next to it. Inside a tag a closing brace ends the tag only when no bracket is open. Where the text cannot be
read, the tokens end with a fault, so that what stands before it is still seen.
-/

namespace WorkflowForge.Template

open Text

/-- What is left of a text after a beginning it has. -/
def after? (beginning : String) (cs : List Char) : Option (List Char) :=
  if beginning.toList.isPrefixOf cs then some (cs.drop beginning.length) else none

namespace Scan

/-- The text up to the first opening of a tag, a comment or raw text, and the rest. -/
def plain : List Char → List Char × List Char
  | [] => ([], [])
  | c :: rest =>
    match c, rest with
    | '{', '{' :: _ | '{', '%' :: _ | '{', '#' :: _ => ([], c :: rest)
    | _, _ =>
      let (text, rest) := plain rest
      (c :: text, rest)

/-- The sign behind an opening. -/
def sign : List Char → Option Char × List Char
  | '-' :: rest => (some '-', rest)
  | '+' :: rest => (some '+', rest)
  | rest => (none, rest)

/-- The rest behind the end of a tag that closes with the given text; a minus sign takes the white space along. -/
def close? (ending : String) (plus : Bool) (cs : List Char) : Option (List Char) :=
  match after? ("-" ++ ending) cs with
  | some rest => some (trimStart rest)
  | none => (after? ending cs).or (if plus then after? ("+" ++ ending) cs else none)

def closeTag? : Tag → List Char → Option (List Char)
  | .print => close? "\x7d\x7d" false
  | .statement => close? "%\x7d" true

/-- The rest behind a tag that holds one word alone, from behind its sign on. -/
def wordTag? (word : String) (plus : Bool) (cs : List Char) : Option (List Char) :=
  (after? word (trimStart cs)).bind fun rest => close? "%\x7d" plus (trimStart rest)

/-- The raw text up to its end tag, the sign of that tag, and the rest. -/
def rawText? : List Char → Option (List Char × Option Char × List Char)
  | [] => none
  | c :: rest =>
    let found := (after? "\x7b%" (c :: rest)).bind fun tail =>
      let (mark, tail) := sign tail
      (wordTag? "endraw" true tail).map fun behind => (mark, behind)
    match found with
    | some (mark, behind) => some ([], mark, behind)
    | none => (rawText? rest).map fun (text, mark, behind) => (c :: text, mark, behind)

/-- The rest behind a comment. -/
def comment? : List Char → Option (List Char)
  | [] => none
  | c :: rest =>
    match close? "#\x7d" true (c :: rest) with
    | some behind => some behind
    | none => comment? rest

/-- Digits in groups with a single underscore between two groups, and the rest. -/
def digitGroups : List Char → List Char × List Char
  | c :: '_' :: d :: rest =>
    if c.isDigit && d.isDigit then
      let (digits, rest) := digitGroups (d :: rest)
      (c :: digits, rest)
    else if c.isDigit then ([c], '_' :: d :: rest)
    else ([], c :: '_' :: d :: rest)
  | c :: rest =>
    if c.isDigit then
      let (digits, rest) := digitGroups rest
      (c :: digits, rest)
    else ([], c :: rest)
  | [] => ([], [])

def number (digits : List Char) : Nat := digits.foldl (fun n c => n * 10 + (c.toNat - 48)) 0

/-- The fraction of a number: a point with digits behind it. -/
def fraction? : List Char → Option (List Char × List Char)
  | '.' :: rest =>
    match digitGroups rest with
    | ([], _) => none
    | (digits, rest) => some (digits, rest)
  | _ => none

/-- The exponent of a number: its mark, an optional sign and digits. -/
def exponent? : List Char → Option (Int × List Char)
  | c :: rest =>
    if c != 'e' && c != 'E' then none
    else
      let (negative, rest) := match rest with
        | '-' :: rest => (true, rest)
        | '+' :: rest => (false, rest)
        | rest => (false, rest)
      match digitGroups rest with
      | ([], _) => none
      | (digits, rest) => some (if negative then -(number digits : Int) else number digits, rest)
  | [] => none

/-- A number with a fraction, an exponent or both. -/
def float? (cs : List Char) : Option (Double × List Char) :=
  match digitGroups cs with
  | ([], _) => none
  | (whole, rest) =>
    match fraction? rest with
    | some (places, tail) =>
      let (power, tail) := (exponent? tail).getD (0, tail)
      some (Double.ofDecimal false (number (whole ++ places)) (power - places.length), tail)
    | none => (exponent? rest).map fun (power, tail) => (Double.ofDecimal false (number whole) power, tail)

/-- Digits of a base, each with an optional underscore before it. -/
def basedDigits (base : Nat) : List Char → List Nat × List Char
  | '_' :: c :: rest =>
    match hexValue? c with
    | some d =>
      if d < base then
        let (digits, rest) := basedDigits base rest
        (d :: digits, rest)
      else ([], '_' :: c :: rest)
    | none => ([], '_' :: c :: rest)
  | c :: rest =>
    match hexValue? c with
    | some d =>
      if d < base then
        let (digits, rest) := basedDigits base rest
        (d :: digits, rest)
      else ([], c :: rest)
    | none => ([], c :: rest)
  | [] => ([], [])

def basedNumber? (base : Nat) (cs : List Char) : Option (Nat × List Char) :=
  match basedDigits base cs with
  | ([], _) => none
  | (digits, rest) => some (digits.foldl (fun n d => n * base + d) 0, rest)

/-- A whole number: binary, octal and hexadecimal behind their marks, otherwise decimal without a leading zero. -/
def integer? (cs : List Char) : Option (Nat × List Char) :=
  let based := match cs with
    | '0' :: c :: rest =>
      if c == 'b' || c == 'B' then basedNumber? 2 rest
      else if c == 'o' || c == 'O' then basedNumber? 8 rest
      else if c == 'x' || c == 'X' then basedNumber? 16 rest
      else none
    | _ => none
  match based, cs with
  | some found, _ => some found
  | none, '0' :: _ => basedNumber? 1 cs
  | none, c :: _ => if c.isDigit then basedNumber? 10 cs else none
  | none, [] => none

/-- The text up to the closing quote, escapes left as they are, and the rest. -/
def string? (quote : Char) : List Char → Option (List Char × List Char)
  | [] => none
  | '\\' :: c :: rest => (string? quote rest).map fun (text, rest) => ('\\' :: c :: text, rest)
  | c :: rest =>
    if c == quote then some ([], rest)
    else if c == '\\' then none
    else (string? quote rest).map fun (text, rest) => (c :: text, rest)

end Scan

namespace Escape

/-- The characters that stand for one other behind a backslash. -/
def simple? : Char → Option (List Char)
  | '\\' => some ['\\']
  | '\'' => some ['\'']
  | '"' => some ['"']
  | '\n' => some []
  | 'a' => some [Char.ofNat 7]
  | 'b' => some [Char.ofNat 8]
  | 'f' => some [Char.ofNat 12]
  | 'n' => some ['\n']
  | 'r' => some ['\r']
  | 't' => some ['\t']
  | 'v' => some [Char.ofNat 11]
  | _ => none

/-- How many hexadecimal digits an escape takes. -/
def width? : Char → Option Nat
  | 'x' => some 2
  | 'u' => some 4
  | 'U' => some 8
  | _ => none

def octalDigits (cs : List Char) : List Char := (cs.take 3).takeWhile fun c => '0' ≤ c && c ≤ '7'

/-- A character outside ASCII behind a backslash: the backslash, and the number of the character in an escape that
has lost its own. -/
def numbered (c : Char) : List Char :=
  if c.toNat < 0x100 then 'x' :: hexDigits 2 c.toNat
  else if c.toNat < 0x10000 then 'u' :: hexDigits 4 c.toNat
  else 'U' :: hexDigits 8 c.toNat

/-- The text with its escapes replaced, or the complaint about one of them; a step for every character is enough. -/
def decode : (steps : Nat) → List Char → Except String (List Char)
  | 0, _ => .ok []
  | _ + 1, [] => .ok []
  | steps + 1, '\\' :: c :: rest =>
    match simple? c, width? c with
    | some cs, _ => (decode steps rest).map (cs ++ ·)
    | none, some width =>
      let digits := (rest.take width).takeWhile fun d => (hexValue? d).isSome
      if digits.length < width then
        .error ("truncated \\" ++ String.ofList (c :: List.replicate width 'X') ++ " escape")
      else
        let n := (hexNumber? digits).getD 0
        if n > 0x10ffff then .error "illegal Unicode character"
        else (decode steps (rest.drop width)).map (Char.ofNat n :: ·)
    | none, none =>
      if '0' ≤ c && c ≤ '7' then
        let digits := octalDigits (c :: rest)
        let n := digits.foldl (fun n d => n * 8 + (d.toNat - 48)) 0
        (decode steps (rest.drop (digits.length - 1))).map (Char.ofNat n :: ·)
      else if c == 'N' then .error "malformed \\N character escape"
      else if c.toNat ≥ 0x80 then (decode steps rest).map fun cs => '\\' :: numbered c ++ cs
      else (decode steps rest).map fun cs => '\\' :: c :: cs
  | steps + 1, c :: rest => (decode steps rest).map (c :: ·)

end Escape

namespace Token

def dataToken (cs : List Char) (line : Nat) : List Token :=
  if cs.isEmpty then [] else [⟨.data (String.ofList cs), line⟩]

/-- What stands first in an open tag, white space and the tag's end aside. -/
inductive Piece where
  | token (kind : TokenKind) (rest : List Char)
  | fault (message : String)
  | unknown

/-- The number, name, string or mark at the head of a text. Behind a point no fraction is read. -/
def piece (afterPoint : Bool) (cs : List Char) : Piece :=
  match cs with
  | [] => .unknown
  | c :: rest =>
    match (if afterPoint then none else Scan.float? cs), Scan.integer? cs with
    | some (x, rest), _ => .token (.float x) rest
    | none, some (n, rest) => .token (.integer n) rest
    | none, none =>
      if isWordChar c then
        let word := cs.takeWhile isWordChar
        if isIdentifier word then .token (.name (String.ofList word)) (cs.dropWhile isWordChar)
        else .fault "Invalid character in identifier"
      else if c == '\'' || c == '"' then
        match Scan.string? c rest with
        | none => .unknown
        | some (text, rest) =>
          match Escape.decode (text.length + 1) text with
          | .ok text => .token (.string (String.ofList text)) rest
          | .error message => .fault message
      else
        match Mark.all.findSome? fun m => (after? m.text cs).map fun rest => (m, rest) with
        | some (m, rest) => .token (.mark m) rest
        | none => .unknown

/-- The brackets open behind a mark, or the complaint about one that closes nothing. -/
def balance (stack : List Mark) (m : Mark) : Except String (List Mark) :=
  match m.closing? with
  | some closing => .ok (closing :: stack)
  | none =>
    if !m.isClosing then .ok stack
    else
      match stack with
      | [] => .error s!"unexpected '{m.text}'"
      | wanted :: stack =>
        if wanted == m then .ok stack else .error s!"unexpected '{m.text}', expected '{wanted.text}'"

/-- Where a text stands within the template it ends. -/
structure Extent where
  size : Nat
  lines : Nat

def Extent.line (e : Extent) (rest : List Char) : Nat := e.lines - rest.count '\n'

def Extent.offset (e : Extent) (rest : List Char) : Nat := e.size - rest.length

mutual

/-- The tokens from plain text on; a step for every character is enough. -/
def scanPlain (e : Extent) : (steps : Nat) → List Char → List Token
  | 0, _ => [⟨.ending, e.lines⟩]
  | steps + 1, cs =>
    let (text, rest) := Scan.plain cs
    match rest with
    | [] => dataToken text (e.line cs) ++ [⟨.ending, e.lines⟩]
    | c :: rest =>
      let kind := rest.head?
      let (sign, inside) := Scan.sign (rest.drop 1)
      let text := if sign == some '-' then trimEnd text else text
      dataToken text (e.line cs) ++
        match kind with
        | some '#' =>
          match Scan.comment? inside with
          | some rest => scanPlain e steps rest
          | none => [⟨if inside.isEmpty then .ending else .fault "Missing end of comment tag", e.line inside⟩]
        | some '{' => ⟨.opening .print, e.line (c :: rest)⟩ :: scanTag e .print [] '{' steps inside
        | _ =>
          match Scan.wordTag? "raw" false inside with
          | some inside =>
            match Scan.rawText? inside with
            | some (raw, sign, behind) =>
              dataToken (if sign == some '-' then trimEnd raw else raw) (e.line inside) ++ scanPlain e steps behind
            | none => [⟨if inside.isEmpty then .ending else .fault "Missing end of raw directive", e.line inside⟩]
          | none => ⟨.opening .statement, e.line (c :: rest)⟩ :: scanTag e .statement [] '%' steps inside

/-- The tokens from inside a tag on, with the brackets that are open and the character read last. -/
def scanTag (e : Extent) (tag : Tag) (stack : List Mark) (last : Char) : (steps : Nat) → List Char → List Token
  | 0, _ => [⟨.ending, e.lines⟩]
  | steps + 1, cs =>
    match (if stack.isEmpty then Scan.closeTag? tag cs else none), cs with
    | some rest, _ => ⟨.closing tag, e.line cs⟩ :: scanPlain e steps rest
    | none, [] => [⟨.ending, e.lines⟩]
    | none, c :: rest =>
      if isBlank c then scanTag e tag stack c steps rest
      else
        match piece (last == '.') cs with
        | .unknown =>
          let shown := quoted (String.singleton c)
          [⟨.fault s!"unexpected char {shown} at {e.offset cs}", e.line cs⟩]
        | .fault message => [⟨.fault message, e.line cs⟩]
        | .token kind rest =>
          let next := (cs.take (cs.length - rest.length)).getLast?.getD c
          match kind with
          | .mark m =>
            match balance stack m with
            | .ok stack => ⟨kind, e.line cs⟩ :: scanTag e tag stack next steps rest
            | .error message => [⟨.fault message, e.line cs⟩]
          | _ => ⟨kind, e.line cs⟩ :: scanTag e tag stack next steps rest

end

/-- The tokens of a template, the last of which is its end or a fault. -/
def scan (source : String) : List Token :=
  let cs := unifyLineEnds source.toList
  scanPlain ⟨cs.length, cs.count '\n' + 1⟩ (cs.length + 1) cs

end Token

end WorkflowForge.Template
