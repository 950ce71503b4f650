/-
SqlNotebook/Json/Number.lean

Reading the numbers of documents.

A numeral without a point and without an exponent is an integer if it fits into
64 bits.  Any other numeral is read as follows: its leading digits, as long as
they fit into 64 bits, give a whole number, which is rounded to binary; the rest
of the whole digits only count, and the rest of the fraction is dropped; then
one multiplication or division by a rounded power of ten sets the point.  A
number that comes out infinite is refused.
-/
import SqlNotebook.Decimal.Text
import SqlNotebook.Json.Basic

namespace SqlNotebook.JsonNumber

/-- Appends digits to a number as long as the result fits into 64 bits.  Gives
the number, how many digits it has taken, and how many are left. -/
def takeDigits (n : Nat) : List Char → Nat × Nat × Nat
  | [] => (n, 0, 0)
  | c :: rest =>
    let next := 10 * n + (c.toNat - '0'.toNat)
    if next < UInt64.size then
      let (value, taken, left) := takeDigits next rest
      (value, taken + 1, left)
    else (n, 0, rest.length + 1)

/-- The greatest exponent of a power of ten that is a binary number. -/
def maxPower : Nat := 308

/-- A power of ten, rounded. -/
def power (e : Nat) : Binary64 :=
  .ofDecimal false 1 e

/-- Divides by powers of ten until `10 ^ e` has been divided out; a number that
gets too small on the way is zero, which happens within `steps` steps of the
greatest power if there are at least three. -/
def shrink : (steps : Nat) → Binary64 → (e : Nat) → Binary64
  | 0, _, _ => .zero false
  | steps + 1, x, e =>
    if e ≤ maxPower then x.divPos (power e)
    else shrink steps (x.divPos (power maxPower)) (e - maxPower)

/-- The number `n * 10 ^ e`, or nothing if it is infinite. -/
def scaled? (n : Nat) (e : Int) : Option Binary64 :=
  let x := Binary64.ofNat n
  if n = 0 then some (.zero false)
  else if e < 0 then some (shrink 4 x e.natAbs)
  else if maxPower < e.natAbs then none
  else some (x.mulPos (power e.natAbs)) |>.filter Binary64.isFinite

/-- The greatest size of an exponent that is looked at, `2 ^ 31 - 1`. -/
def maxExponent : Nat := 2147483647

/-- The size of the number in parts, if it is finite. -/
def size? (parts : DecimalParts) (exponent : Int) : Option Binary64 :=
  let (leading, _, left) := takeDigits 0 parts.whole
  let (n, taken, _) := takeDigits leading (parts.fraction.getD [])
  if maxExponent < exponent.natAbs then
    if n = 0 || exponent < 0 then some (.zero false) else none
  else scaled? n (exponent + left - taken)

/-- Whether the parts are those of a numeral: no zero in front of other digits,
and at least one digit wherever there can be digits. -/
def isNumeral (parts : DecimalParts) : Bool :=
  (Chars.natural? parts.whole).isSome &&
    (parts.whole.head? ≠ some '0' || parts.whole.length = 1) &&
    parts.fraction.all fun digits => (Chars.natural? digits).isSome

/-- The integer of a numeral that has neither a point nor an exponent, if it
fits.  The negative zero is no integer. -/
def integer? (negative : Bool) (parts : DecimalParts) : Option Int :=
  match parts.fraction, parts.exponent with
  | none, none =>
    match negative, Nat.ofDigitChars 10 parts.whole 0 with
    | false, n => if n < UInt64.size then some n else none
    | true, n => if 0 < n && n ≤ Numeral.int64Bound then some (-(n : Int)) else none
  | _, _ => none

/-- Reads a numeral without its sign. -/
def ofUnsigned? (negative : Bool) (s : List Char) : Option JsonNumber := do
  let parts := DecimalParts.ofChars s
  let exponent ← (parts.exponent.map DecimalParts.exponentValue?).getD (some 0)
  if !isNumeral parts then none
  else
    match integer? negative parts with
    | some value => return .integer value
    | none =>
      let size ← size? parts exponent
      return .real (if negative then size.neg else size)

/-- Reads a numeral. -/
def ofChars? : List Char → Option JsonNumber
  | '-' :: rest => ofUnsigned? true rest
  | rest => ofUnsigned? false rest

end SqlNotebook.JsonNumber
