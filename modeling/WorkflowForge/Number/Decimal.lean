import WorkflowForge.Number.Double

/-!
The shortest decimal that reads back as a given double, and the text it is written as.
-/

namespace WorkflowForge

/-- A decimal `digits * 10 ^ exponent`. -/
structure Decimal where
  digits : Nat
  exponent : Int
deriving DecidableEq, Inhabited, Repr

namespace Decimal

/-- Compares `a * 10 ^ p` with `b * 2 ^ r`. -/
def compareScaled (a : Nat) (p : Int) (b : Nat) (r : Int) : Ordering :=
  let left := if p ≥ 0 then a * Nat.pow 10 p.toNat else a
  let right := if p ≥ 0 then b else b * Nat.pow 10 (-p).toNat
  if r ≥ 0 then compare left (right * Nat.pow 2 r.toNat) else compare (left * Nat.pow 2 (-r).toNat) right

/-- The greatest `e` for which `10 ^ e` is at most `m * 2 ^ q`, for a positive `m`. -/
def magnitude (m : Nat) (q : Int) : Int :=
  let guess := ((Nat.log2 m : Int) + q) * 30103 / 100000
  if compareScaled 1 (guess + 1) m q != .gt then guess + 1
  else if compareScaled 1 guess m q == .gt then guess - 1
  else guess

/-- Removes the zeros at the end of the digits. -/
def normalize (fuel : Nat) (digits : Nat) (exponent : Int) : Decimal :=
  match fuel with
  | 0 => ⟨digits, exponent⟩
  | fuel + 1 =>
    if digits != 0 && digits % 10 == 0 then normalize fuel (digits / 10) (exponent + 1) else ⟨digits, exponent⟩

/-- The reals that round to `m * 2 ^ q`, in units of `2 ^ (q - 2)`, and whether the ends round to it too. -/
structure Interval where
  low : Nat
  high : Nat
  unit : Int
  closed : Bool

def Interval.around (m : Nat) (q : Int) : Interval :=
  { low := 4 * m - (if m == Nat.pow 2 52 && q > -1074 then 1 else 2)
    high := 4 * m + 2
    unit := q - 2
    closed := m % 2 == 0 }

def Interval.contains (i : Interval) (digits : Nat) (exponent : Int) : Bool :=
  let low := compareScaled digits exponent i.low i.unit
  let high := compareScaled digits exponent i.high i.unit
  (low == .gt || (i.closed && low == .eq)) && (high == .lt || (i.closed && high == .eq))

/-- The decimal nearest to `m * 2 ^ q` among the two neighbours of it with the given last place, if one of them
rounds to it. -/
def onGrid? (m : Nat) (q : Int) (place : Int) : Option Decimal :=
  let interval := Interval.around m q
  let num := if q ≥ 0 then m * Nat.pow 2 q.toNat else m
  let den := if q ≥ 0 then 1 else Nat.pow 2 (-q).toNat
  let (num, den) := if place ≥ 0 then (num, den * Nat.pow 10 place.toNat) else (num * Nat.pow 10 (-place).toNat, den)
  let below := num / den
  let rest := 2 * (num % den)
  let nearest := if rest < den || (rest == den && below % 2 == 0) then below else below + 1
  let other := if nearest == below then below + 1 else below
  if interval.contains nearest place then some (normalize 20 nearest place)
  else if interval.contains other place then some (normalize 20 other place)
  else none

/-- The first decimal found with one more digit at a time. -/
def search (m : Nat) (q : Int) (top : Int) : (tries : Nat) → (digits : Nat) → Decimal
  | 0, _ => ⟨0, 0⟩
  | tries + 1, digits =>
    match onGrid? m q (top - digits) with
    | some d => d
    | none => search m q top tries (digits + 1)

end Decimal

namespace Double

/-- The decimal with the fewest digits that rounds to a finite number, sign aside. -/
def shortest (x : Double) : Decimal :=
  if x.mantissa == 0 then ⟨0, 0⟩
  else Decimal.search x.mantissa x.scale (Decimal.magnitude x.mantissa x.scale) 18 0

/-- How numbers with a point are written: positionally for exponents in the given bounds, otherwise with a mark, a
sign and at least so many digits of exponent. -/
structure DecimalStyle where
  leastPositional : Int
  firstScientific : Int
  exponentWidth : Nat

/-- Positional from `0.0001` up to sixteen digits before the point. -/
def plainStyle : DecimalStyle := ⟨-4, 16, 2⟩

def digitChars (n : Nat) : List Char := Nat.toDigits 10 n

def padZeros (width : Nat) (cs : List Char) : List Char := List.replicate (width - cs.length) '0' ++ cs

/-- The magnitude of a finite number in the given style. -/
def magnitudeChars (style : DecimalStyle) (d : Decimal) : List Char :=
  let digits := digitChars d.digits
  let top : Int := d.exponent + digits.length - 1
  if style.leastPositional ≤ top && top < style.firstScientific then
    if d.exponent ≥ 0 then digits ++ List.replicate d.exponent.toNat '0' ++ ['.', '0']
    else if top ≥ 0 then
      let whole := (top + 1).toNat
      digits.take whole ++ '.' :: digits.drop whole
    else '0' :: '.' :: List.replicate (-top - 1).toNat '0' ++ digits
  else
    let tail := match digits.drop 1 with
      | [] => []
      | rest => '.' :: rest
    let sign := if top < 0 then '-' else '+'
    digits.take 1 ++ tail ++ 'e' :: sign :: padZeros style.exponentWidth (digitChars top.natAbs)

end Double

end WorkflowForge
