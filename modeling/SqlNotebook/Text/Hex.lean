/-
SqlNotebook/Text/Hex.lean

Numerals to a base other than ten, and hexadecimal digits.
-/

namespace SqlNotebook.Chars

/-- The value of a hexadecimal digit, in upper or lower case. -/
def hexValue? (c : Char) : Option Nat :=
  if c.isDigit then some (c.toNat - '0'.toNat)
  else if 'a' ≤ c && c ≤ 'f' then some (c.toNat - 'a'.toNat + 10)
  else if 'A' ≤ c && c ≤ 'F' then some (c.toNat - 'A'.toNat + 10)
  else none

/-- The number that digits stand for to a base of at most sixteen. -/
def numberToBase? (base : Nat) (digits : List Char) : Option Nat :=
  digits.foldlM (fun n c => do
    let value ← hexValue? c
    if value < base then some (base * n + value) else none) 0

/-- The number that hexadecimal digits stand for. -/
def hexNumber? (digits : List Char) : Option Nat :=
  numberToBase? 16 digits

/-- The character with the given code point, if there is one. -/
def ofCodePoint? (n : Nat) : Option Char :=
  if n.isValidChar then some (Char.ofNat n) else none

end SqlNotebook.Chars
