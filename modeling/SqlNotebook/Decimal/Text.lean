/-
SqlNotebook/Decimal/Text.lean

Reading decimal numbers: a sign, digits with or without a point, and an
exponent, of which only the digits are required; or a word for an infinity or
for the undefined number.  The result is the nearest number.
-/
import SqlNotebook.Decimal.Binary64
import SqlNotebook.Text.Numeral
import SqlNotebook.Text.Upper

namespace SqlNotebook

/-- An unsigned decimal numeral in its parts. -/
structure DecimalParts where
  whole : List Char
  /-- The digits behind the point, if there is a point. -/
  fraction : Option (List Char)
  /-- The text of the exponent, which may have a sign, if there is a mark. -/
  exponent : Option (List Char)
deriving DecidableEq, Repr

namespace DecimalParts

/-- Cuts a numeral at its point and at its exponent. -/
def ofChars (s : List Char) : DecimalParts :=
  let isMark (c : Char) : Bool := c = 'e' || c = 'E'
  let digits := s.takeWhile fun c => !isMark c
  ⟨digits.takeWhile (· ≠ '.'), (digits.dropWhile (· ≠ '.')).tail?,
    (s.dropWhile fun c => !isMark c).tail?⟩

/-- The value of an exponent: digits with or without a sign. -/
def exponentValue? : List Char → Option Int
  | '+' :: rest => (Chars.natural? rest).map Int.ofNat
  | '-' :: rest => (Chars.natural? rest).map fun n => -(n : Int)
  | rest => (Chars.natural? rest).map Int.ofNat

/-- The number that the parts stand for. -/
def number? (negative : Bool) (parts : DecimalParts) : Option Binary64 := do
  let fraction := parts.fraction.getD []
  let digits ← Chars.natural? (parts.whole ++ fraction)
  let exponent ← (parts.exponent.map exponentValue?).getD (some 0)
  return .ofDecimal negative digits (exponent - fraction.length)

end DecimalParts

namespace Binary64

/-- Reads a number without its sign. -/
def ofUnsigned? (negative : Bool) (s : List Char) : Option Binary64 :=
  match String.ofList (Chars.lowerAscii s) with
  | "inf" | "infinity" => some (.infinite negative)
  | "nan" => some .nan
  | _ => (DecimalParts.ofChars s).number? negative

/-- Reads a number. -/
def ofText? (text : String) : Option Binary64 :=
  match text.toList with
  | '+' :: rest => ofUnsigned? false rest
  | '-' :: rest => ofUnsigned? true rest
  | rest => ofUnsigned? false rest

end Binary64

end SqlNotebook
