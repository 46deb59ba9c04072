/-!
Binary floating-point numbers of 64 bits, kept as their bits so that two of them can be told apart. A finite one is a
mantissa times a power of two; a decimal is read as the double nearest to it, a tie going to the even mantissa.
-/

namespace WorkflowForge

structure Double where
  bits : UInt64
deriving DecidableEq, Inhabited, Repr

namespace Double

def toFloat (x : Double) : Float := Float.ofBits x.bits

def ofFloat (x : Float) : Double := ⟨x.toBits⟩

def isNegative (x : Double) : Bool := x.bits.toNat ≥ Nat.pow 2 63

def exponentField (x : Double) : Nat := x.bits.toNat / Nat.pow 2 52 % Nat.pow 2 11

def fraction (x : Double) : Nat := x.bits.toNat % Nat.pow 2 52

def isNaN (x : Double) : Bool := x.exponentField == 2047 && x.fraction != 0

def isInfinite (x : Double) : Bool := x.exponentField == 2047 && x.fraction == 0

def isFinite (x : Double) : Bool := x.exponentField != 2047

/-- The mantissa of a finite number. -/
def mantissa (x : Double) : Nat := if x.exponentField == 0 then x.fraction else x.fraction + Nat.pow 2 52

/-- The power of two by which the mantissa of a finite number is scaled. -/
def scale (x : Double) : Int := if x.exponentField == 0 then -1074 else (x.exponentField : Int) - 1075

/-- A number from its sign and the bits below it. -/
def ofParts (negative : Bool) (low : Nat) : Double :=
  ⟨UInt64.ofNat (if negative then Nat.pow 2 63 + low else low)⟩

def infinity (negative : Bool) : Double := ofParts negative (2047 * Nat.pow 2 52)

def nan : Double := ofParts false (2047 * Nat.pow 2 52 + Nat.pow 2 51)

/-- `num / den` rounded to the nearest natural number, a tie going to the even one. -/
def roundDiv (num den : Nat) : Nat :=
  let quotient := num / den
  let rest := 2 * (num % den)
  if rest < den || (rest == den && quotient % 2 == 0) then quotient else quotient + 1

/-- The numerator and denominator of `num / den` divided by `2 ^ power`. -/
def scaleDown (num den : Nat) (power : Int) : Nat × Nat :=
  if power ≥ 0 then (num, den * Nat.pow 2 power.toNat) else (num * Nat.pow 2 (-power).toNat, den)

/-- The number nearest to the positive fraction `num / den`. -/
def ofRatio (negative : Bool) (num den : Nat) : Double :=
  let guess : Int := (Nat.log2 num : Int) - Nat.log2 den - 52
  let (n, d) := scaleDown num den guess
  let power := max (if n / d < Nat.pow 2 52 then guess - 1 else guess) (-1074)
  let (n, d) := scaleDown num den power
  let rounded := roundDiv n d
  let (mantissa, power) := if rounded == Nat.pow 2 53 then (Nat.pow 2 52, power + 1) else (rounded, power)
  if power > 971 then infinity negative
  else if mantissa < Nat.pow 2 52 then ofParts negative mantissa
  else ofParts negative ((power + 1075).toNat * Nat.pow 2 52 + (mantissa - Nat.pow 2 52))

/-- The number nearest to `digits * 10 ^ exponent`. -/
def ofDecimal (negative : Bool) (digits : Nat) (exponent : Int) : Double :=
  let magnitude : Int := (Nat.toDigits 10 digits).length + exponent
  if digits == 0 || magnitude < -330 then ofParts negative 0
  else if magnitude > 310 then infinity negative
  else if exponent ≥ 0 then ofRatio negative (digits * Nat.pow 10 exponent.toNat) 1
  else ofRatio negative digits (Nat.pow 10 (-exponent).toNat)

def ofInt (n : Int) : Double := ofDecimal (n < 0) n.natAbs 0

/-- The integer a number equals, if it is one. -/
def toInt? (x : Double) : Option Int :=
  if !x.isFinite then none
  else
    let signed (n : Nat) : Int := if x.isNegative then -(n : Int) else n
    if x.scale ≥ 0 then some (signed (x.mantissa * Nat.pow 2 x.scale.toNat))
    else
      let unit := Nat.pow 2 (-x.scale).toNat
      if x.mantissa % unit == 0 then some (signed (x.mantissa / unit)) else none

/-- The part of a finite number before the point. -/
def truncate (x : Double) : Int :=
  let n := if x.scale ≥ 0 then x.mantissa * Nat.pow 2 x.scale.toNat else x.mantissa / Nat.pow 2 (-x.scale).toNat
  if x.isNegative then -(n : Int) else n

end Double

end WorkflowForge
