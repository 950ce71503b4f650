/-
SqlNotebook/Decimal/Binary64.lean

Floating-point numbers of 64 bits as exact data: a finite number is a natural
mantissa times a power of two.  Everything here is arithmetic on natural numbers
and integers; `ofRatio` is the one place where a number is rounded, to the
nearest representable one and to the even one of two.
-/

namespace SqlNotebook

/-- A binary floating-point number of 64 bits.  The finite ones that `ofRatio`
makes have a mantissa below `2 ^ 53` and an exponent from `-1074` to `971`, and
the mantissa is at least `2 ^ 52` unless the exponent is `-1074`. -/
inductive Binary64
  | nan
  | infinite (negative : Bool)
  /-- The number `mantissa * 2 ^ exponent`, or its negative. -/
  | finite (negative : Bool) (mantissa : Nat) (exponent : Int)
deriving DecidableEq, Repr

namespace Binary64

/-- The least exponent. -/
def minExponent : Int := -1074

/-- The greatest exponent. -/
def maxExponent : Int := 971

/-- The number of bits in a mantissa. -/
def precision : Nat := 53

/-- The zero with the given sign. -/
def zero (negative : Bool) : Binary64 :=
  .finite negative 0 minExponent

/-- The integer nearest to `num / den`, the even one of two. -/
def roundHalfEven (num den : Nat) : Nat :=
  let quotient := num / den
  let twice := 2 * (num % den)
  if twice < den || (twice = den && quotient % 2 = 0) then quotient else quotient + 1

/-- The power `base ^ e`, or one if `e` is negative: a fraction times `base ^ e` has
`power base e` in its numerator and `power base (-e)` in its denominator. -/
def power (base : Nat) (e : Int) : Nat :=
  Nat.pow base e.toNat

/-- The integer part of `num / den * 10 ^ e * 2 ^ f`. -/
def scaledFloor (num den : Nat) (e f : Int) : Nat :=
  (num * power 10 e * power 2 f) / (den * power 10 (-e) * power 2 (-f))

/-- The greatest `e` with `2 ^ e ≤ num / den`, for positive numbers. -/
def floorLog2 (num den : Nat) : Int :=
  let e : Int := (num.log2 : Int) - den.log2
  if num * power 2 (-e) < den * power 2 e then e - 1 else e

/-- The number nearest to `num / den`, or to its negative. -/
def ofRatio (negative : Bool) (num den : Nat) : Binary64 :=
  if num = 0 then zero negative
  else
    let exponent := max (floorLog2 num den - (precision - 1 : Nat)) minExponent
    let mantissa := roundHalfEven (num * power 2 (-exponent)) (den * power 2 exponent)
    let (mantissa, exponent) :=
      if mantissa = power 2 precision then (power 2 (precision - 1 : Nat), exponent + 1)
      else (mantissa, exponent)
    if maxExponent < exponent then .infinite negative else .finite negative mantissa exponent

/-- The number of decimal digits of a natural number. -/
def digitCount (n : Nat) : Nat :=
  (Nat.toDigits 10 n).length

/-- The number nearest to `digits * 10 ^ exponent`, or to its negative.  Numbers
that are far out of range are told by their size alone. -/
def ofDecimal (negative : Bool) (digits : Nat) (exponent : Int) : Binary64 :=
  let size : Int := digitCount digits + exponent
  if digits = 0 || size < -400 then zero negative
  else if 400 < size then .infinite negative
  else ofRatio negative (digits * power 10 exponent) (power 10 (-exponent))

/-- The number nearest to a natural number. -/
def ofNat (n : Nat) : Binary64 :=
  ofRatio false n 1

/-- The number with the other sign. -/
def neg : Binary64 → Binary64
  | nan => nan
  | infinite negative => infinite !negative
  | finite negative mantissa exponent => finite (!negative) mantissa exponent

/-- The product of two positive finite numbers. -/
def mulPos : Binary64 → Binary64 → Binary64
  | finite _ m e, finite _ n f =>
    let exponent := e + f
    ofRatio false (m * n * power 2 exponent) (power 2 (-exponent))
  | _, _ => infinite false

/-- The quotient of two positive finite numbers. -/
def divPos : Binary64 → Binary64 → Binary64
  | finite _ m e, finite _ n f =>
    let exponent := e - f
    ofRatio false (m * power 2 exponent) (n * power 2 (-exponent))
  | _, _ => infinite false

/-- The size of a number that is whole. -/
def whole? : Binary64 → Option Nat
  | finite _ mantissa exponent =>
    let divisor := power 2 (-exponent)
    if mantissa % divisor = 0 then some (mantissa * power 2 exponent / divisor) else none
  | _ => none

/-- Whether the number is neither infinite nor undefined. -/
def isFinite : Binary64 → Bool
  | finite .. => true
  | _ => false

/-- Whether the number is undefined. -/
def isNan : Binary64 → Bool
  | nan => true
  | _ => false

end Binary64

end SqlNotebook
