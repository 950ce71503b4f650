/-
SqlNotebook/Text/Numeral.lean

Decimal numerals: one or more of the digits `0` to `9`, leading zeros allowed,
with an optional sign.
-/

namespace SqlNotebook

namespace Chars

/-- The number that a nonempty run of digits stands for. -/
def natural? (s : List Char) : Option Nat :=
  if !s.isEmpty && s.all Char.isDigit then some (Nat.ofDigitChars 10 s 0) else none

end Chars

namespace Numeral

/-- Reads a natural number below `2 ^ 64`; a plus sign may stand in front. -/
def word? (s : String) : Option UInt64 :=
  let digits :=
    match s.toList with
    | '+' :: rest => rest
    | plain => plain
  match Chars.natural? digits with
  | some n => if n < UInt64.size then some (UInt64.ofNat n) else none
  | none => none

/-- The least natural number that does not fit into 64 bits with a sign, `2 ^ 63`. -/
def int64Bound : Nat := 9223372036854775808

/-- Whether an integer fits into 64 bits with a sign. -/
def fitsInt64 (n : Int) : Bool :=
  -int64Bound ≤ n && n < int64Bound

/-- Reads an integer of 64 bits; a sign may stand in front. -/
def integer? (s : String) : Option Int :=
  let value :=
    match s.toList with
    | '+' :: rest => (Chars.natural? rest).map Int.ofNat
    | '-' :: rest => (Chars.natural? rest).map fun n => -(n : Int)
    | plain => (Chars.natural? plain).map Int.ofNat
  value.filter fitsInt64

end Numeral

end SqlNotebook
