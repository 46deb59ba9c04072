import WorkflowForge.Number.Double
import WorkflowForge.Text.Blank
import WorkflowForge.Text.Casing
import WorkflowForge.Text.Hex

/-!
Numbers written by people: white space around them, a sign, and single underscores between digits are allowed.
-/

namespace WorkflowForge.Numeral

open Text

def splitSign : List Char → Bool × List Char
  | '-' :: rest => (true, rest)
  | '+' :: rest => (false, rest)
  | rest => (false, rest)

/-- The digits of a text that holds nothing else but single underscores between two of them. -/
def digits? (base : Nat) : List Char → Option (List Nat)
  | [] => none
  | c :: rest => do
    let d ← hexValue? c
    if d ≥ base then none
    else
      match rest with
      | [] => return [d]
      | '_' :: rest => return d :: (← digits? base rest)
      | rest => return d :: (← digits? base rest)

def ofDigits (base : Nat) (digits : List Nat) : Nat := digits.foldl (fun n d => n * base + d) 0

/-- A whole number. -/
def int? (base : Nat) (s : String) : Option Int := do
  let (negative, body) := splitSign (trim s.toList)
  let n := ofDigits base (← digits? base body)
  return if negative then -(n : Int) else n

/-- The digits before a character and the rest from it on; there may be no digits. -/
def leading (cs : List Char) : Option (List Nat × List Char) :=
  let body := cs.takeWhile fun c => c.isDigit || c == '_'
  if body.isEmpty then some ([], cs) else (digits? 10 body).map fun ds => (ds, cs.drop body.length)

def exponent? : List Char → Option Int
  | [] => some 0
  | c :: rest =>
    if c != 'e' && c != 'E' then none
    else
      let (negative, body) := splitSign rest
      (digits? 10 body).map fun ds => if negative then -(ofDigits 10 ds : Int) else ofDigits 10 ds

/-- A number with an optional point and exponent, or one of the words for infinity and for what is no number. -/
def float? (s : String) : Option Double := do
  let (negative, body) := splitSign (trim s.toList)
  let word := String.ofList (lowerChars body)
  if word == "inf" || word == "infinity" then return Double.infinity negative
  if word == "nan" then return Double.nan
  let (whole, rest) ← leading body
  let (places, rest) ← match rest with
    | '.' :: rest => leading rest
    | rest => some ([], rest)
  if whole.isEmpty && places.isEmpty then none
  else
    let power ← exponent? rest
    return Double.ofDecimal negative (ofDigits 10 (whole ++ places)) (power - places.length)

end WorkflowForge.Numeral
