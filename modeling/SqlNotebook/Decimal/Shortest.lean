/-
SqlNotebook/Decimal/Shortest.lean

The fewest decimal digits that read back as a given binary number.

The numbers that round to `m * 2 ^ q` form an interval, from halfway to the
number below up to halfway to the number above; the ends belong to it if `m` is
even.  For one digit, two digits, … the two multiples of the matching power of
ten that enclose the number are tested, and the first hit wins; of two hits the
nearer wins, and a tie goes as `Tie` says.
-/
import SqlNotebook.Decimal.Binary64

namespace SqlNotebook.Shortest

/-- Where to go from a number that lies halfway between two candidates. -/
inductive Tie
  | up
  | even
deriving DecidableEq, Repr

/-- The decimal `0.d₁d₂… * 10 ^ point` with the given digits, of which the first
is not zero. -/
structure Digits where
  digits : List Char
  point : Int
deriving DecidableEq, Repr

/-- Compares `a * 10 ^ k` with `b * 2 ^ f`. -/
def compareScaled (a : Nat) (k : Int) (b : Nat) (f : Int) : Ordering :=
  compare (a * Binary64.power 10 k * Binary64.power 2 (-f))
    (b * Binary64.power 2 f * Binary64.power 10 (-k))

/-- Whether `d * 10 ^ k` rounds to `m * 2 ^ q`.  Just above a power of two the
number below is only half as far away as the one above. -/
def readsBack (m : Nat) (q : Int) (d : Nat) (k : Int) : Bool :=
  let narrow := m = Binary64.power 2 (Binary64.precision - 1 : Nat) && Binary64.minExponent < q
  let low := compareScaled d k (4 * m - (if narrow then 1 else 2)) (q - 2)
  let high := compareScaled d k (4 * m + 2) (q - 2)
  let closed := m % 2 = 0
  (low = .gt || (closed && low = .eq)) && (high = .lt || (closed && high = .eq))

/-- The decimal `d * 10 ^ k` without zeros at the end of its digits. -/
def Digits.ofScaled (d : Nat) (k : Int) : Digits :=
  let digits := Nat.toDigits 10 d
  ⟨(digits.reverse.dropWhile (· = '0')).reverse, digits.length + k⟩

/-- The better of the candidates `d` and `d + 1` on the grid of `10 ^ k`, if one
of them reads back. -/
def candidate? (tie : Tie) (m : Nat) (q : Int) (d : Nat) (k : Int) : Option Nat :=
  match readsBack m q d k, readsBack m q (d + 1) k with
  | true, true =>
    match compareScaled (2 * d + 1) k (2 * m) q with
    | .gt => some d
    | .lt => some (d + 1)
    | .eq => some (if tie = .even && d % 2 = 0 then d else d + 1)
  | true, false => some d
  | false, true => some (d + 1)
  | false, false => none

/-- The least `k` with `m * 2 ^ q < 10 ^ k`, for a positive number. -/
def decimalScale (m : Nat) (q : Int) : Int :=
  (Binary64.digitCount (Binary64.scaledFloor m 1 400 q) : Int) - 400

/-- The fewest digits that read back as `m * 2 ^ q`, for a positive number. -/
def digits (tie : Tie) (m : Nat) (q : Int) : Digits :=
  let scale := decimalScale m q
  let found := (List.range 17).findSome? fun (n : Nat) =>
    let k := scale - (n + 1)
    (candidate? tie m q (Binary64.scaledFloor m 1 (-k) q) k).map (Digits.ofScaled · k)
  found.getD (.ofScaled (m * Binary64.power 2 q * Binary64.power 5 (-q)) (min q 0))

end SqlNotebook.Shortest
