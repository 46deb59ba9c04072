import WorkflowForge.Number.Double

/-!
Arithmetic on whole numbers and doubles together. Numbers are compared by their exact values; division rounds toward
the floor, and the remainder has the sign of the divisor.
-/

namespace WorkflowForge

inductive Number where
  | int (n : Int)
  | float (x : Double)
deriving DecidableEq, Repr, Inhabited

namespace Number

inductive Mistake where
  | zeroDivision
  | tooLarge
deriving DecidableEq, Repr

/-- Compares a whole number with a double that is a number. -/
def compareIntFloat (n : Int) (x : Double) : Ordering :=
  if x.isInfinite then if x.isNegative then .gt else .lt
  else
    match x.toInt? with
    | some m => compare n m
    | none =>
      let whole := x.truncate
      if x.isNegative then if n ≥ whole then .gt else .lt
      else if n ≤ whole then .lt
      else .gt

/-- The order of two numbers; there is none beside a number that is not one. -/
def compare? : Number → Number → Option Ordering
  | .int m, .int n => some (compare m n)
  | .int m, .float x => if x.isNaN then none else some (compareIntFloat m x)
  | .float x, .int n => if x.isNaN then none else some (compareIntFloat n x).swap
  | .float x, .float y =>
    if x.isNaN || y.isNaN then none
    else if x.toFloat < y.toFloat then some .lt
    else if y.toFloat < x.toFloat then some .gt
    else some .eq

def toDouble : Number → Except Mistake Double
  | .int n =>
    let x := Double.ofInt n
    if x.isFinite then .ok x else .error .tooLarge
  | .float x => .ok x

/-- An operation on whole numbers where both are, and on doubles otherwise. -/
def combine (onInts : Int → Int → Int) (onFloats : Float → Float → Float) : Number → Number → Except Mistake Number
  | .int m, .int n => .ok (.int (onInts m n))
  | a, b => do
    let x ← a.toDouble
    let y ← b.toDouble
    return .float (.ofFloat (onFloats x.toFloat y.toFloat))

def add : Number → Number → Except Mistake Number := combine (· + ·) (· + ·)

def sub : Number → Number → Except Mistake Number := combine (· - ·) (· - ·)

def mul : Number → Number → Except Mistake Number := combine (· * ·) (· * ·)

def isZero : Number → Bool
  | .int n => n == 0
  | .float x => x.exponentField == 0 && x.fraction == 0

def div (a b : Number) : Except Mistake Number :=
  if b.isZero then .error .zeroDivision
  else
    match a, b with
    | .int m, .int n =>
      if m == 0 then .ok (.float (Double.ofParts (n < 0) 0))
      else
        let x := Double.ofRatio ((m < 0) != (n < 0)) m.natAbs n.natAbs
        if x.isFinite then .ok (.float x) else .error .tooLarge
    | a, b => do
      let x ← a.toDouble
      let y ← b.toDouble
      return .float (.ofFloat (x.toFloat / y.toFloat))

/-- The exact remainder of two finite doubles, with the sign of the first. -/
def exactRemainder (x y : Double) : Double :=
  let low := min x.scale y.scale
  let m := x.mantissa * Nat.pow 2 (x.scale - low).toNat
  let n := y.mantissa * Nat.pow 2 (y.scale - low).toNat
  let rest := m % n
  if rest == 0 then Double.ofParts x.isNegative 0
  else if low ≥ 0 then Double.ofRatio x.isNegative (rest * Nat.pow 2 low.toNat) 1
  else Double.ofRatio x.isNegative rest (Nat.pow 2 (-low).toNat)

/-- Quotient and remainder of doubles, the divisor not being zero. -/
def floatDivMod (x y : Double) : Double × Double :=
  if x.isNaN || y.isNaN || x.isInfinite then (Double.nan, Double.nan)
  else
    let rest := if y.isInfinite then x else exactRemainder x y
    let isZeroRest := rest.exponentField == 0 && rest.fraction == 0
    let quotient := (x.toFloat - rest.toFloat) / y.toFloat
    let (rest, quotient) :=
      if isZeroRest then (Double.ofParts y.isNegative 0, quotient)
      else if rest.isNegative != y.isNegative then (.ofFloat (rest.toFloat + y.toFloat), quotient - 1.0)
      else (rest, quotient)
    let whole :=
      if quotient == 0.0 then
        if (Double.ofFloat (x.toFloat / y.toFloat)).isNegative then Double.ofParts true 0 else Double.ofParts false 0
      else
        let floor := quotient.floor
        .ofFloat (if quotient - floor > 0.5 then floor + 1.0 else floor)
    (whole, rest)

def floorDiv (a b : Number) : Except Mistake Number :=
  if b.isZero then .error .zeroDivision
  else
    match a, b with
    | .int m, .int n => .ok (.int (Int.fdiv m n))
    | a, b => do return .float (floatDivMod (← a.toDouble) (← b.toDouble)).1

def mod (a b : Number) : Except Mistake Number :=
  if b.isZero then .error .zeroDivision
  else
    match a, b with
    | .int m, .int n => .ok (.int (Int.fmod m n))
    | a, b => do return .float (floatDivMod (← a.toDouble) (← b.toDouble)).2

def pow (a b : Number) : Except Mistake Number :=
  match a, b with
  | .int m, .int n =>
    if n ≥ 0 then .ok (.int (Int.pow m n.toNat))
    else if m == 0 then .error .zeroDivision
    else do
      let x ← a.toDouble
      let y ← b.toDouble
      return .float (.ofFloat (x.toFloat.pow y.toFloat))
  | a, b => do
    let x ← a.toDouble
    let y ← b.toDouble
    if a.isZero && y.isNegative && !b.isZero then throw .zeroDivision
    let result := Double.ofFloat (x.toFloat.pow y.toFloat)
    if result.isInfinite && x.isFinite && y.isFinite then throw .tooLarge
    return .float result

def neg : Number → Number
  | .int n => .int (-n)
  | .float x => .float (.ofFloat (-x.toFloat))

def abs : Number → Number
  | .int n => .int n.natAbs
  | .float x => .float (.ofFloat x.toFloat.abs)

end Number

end WorkflowForge
