/-
SqlNotebook/Decimal/Layout.lean

How numbers are written.

`positional` has no exponent and writes a whole number exactly, with `.0` behind
it; this is the form in tables and in SQL.  `compact` is the form in documents:
the shortest digits throughout, positional from `1e-5` up to `1e16`, and with a
signed exponent outside of that range.
-/
import SqlNotebook.Decimal.Shortest

namespace SqlNotebook

namespace Shortest.Digits

/-- The digits with a decimal point in place, and `.0` behind a whole number. -/
def positional (d : Digits) : List Char :=
  let n := d.point.toNat
  if d.point ≤ 0 then
    '0' :: '.' :: (List.replicate (-d.point).toNat '0' ++ d.digits)
  else if d.digits.length ≤ n then
    d.digits ++ List.replicate (n - d.digits.length) '0' ++ ['.', '0']
  else d.digits.take n ++ '.' :: d.digits.drop n

/-- The digits with the point behind the first one, and an exponent. -/
def scientific (d : Digits) : List Char :=
  let exponent := d.point - 1
  let mantissa :=
    match d.digits with
    | first :: second :: rest => first :: '.' :: second :: rest
    | short => short
  let sign := if exponent < 0 then '-' else '+'
  mantissa ++ 'e' :: sign :: Nat.toDigits 10 exponent.natAbs

end Shortest.Digits

namespace Binary64

/-- Puts a minus sign in front of a negative number. -/
def signed (negative : Bool) (size : List Char) : String :=
  String.ofList (if negative then '-' :: size else size)

/-- The number without an exponent.  Between two equally good last digits the
greater one is taken. -/
def positional : Binary64 → String
  | nan => "NaN"
  | infinite negative => signed negative ['i', 'n', 'f']
  | finite negative mantissa exponent =>
    match (finite negative mantissa exponent).whole? with
    | some size => signed negative (Nat.toDigits 10 size ++ ['.', '0'])
    | none => signed negative (Shortest.digits .up mantissa exponent).positional

/-- The finite number in as few digits as possible, with an exponent where it is
very small or very large; otherwise nothing.  Between two equally good last
digits the even one is taken. -/
def compact? : Binary64 → Option String
  | finite negative mantissa exponent =>
    if mantissa = 0 then some (signed negative ['0', '.', '0'])
    else
      let digits := Shortest.digits .even mantissa exponent
      if -5 < digits.point && digits.point ≤ 16 then some (signed negative digits.positional)
      else some (signed negative digits.scientific)
  | _ => none

end Binary64

end SqlNotebook
