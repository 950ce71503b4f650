/-
SqlNotebook/Toml/Scalar.lean

Words that are values: integers, floating-point numbers, truth values, and
dates and times.
-/
import SqlNotebook.Decimal.Text
import SqlNotebook.Text.Hex
import SqlNotebook.Toml.Basic

namespace SqlNotebook.Toml

/-! ### Numbers -/

/-- A run of digits without the underscores that may stand between two of them. -/
def digits? (isDigit : Char → Bool) : List Char → Option (List Char)
  | [] => none
  | [c] => if isDigit c then some [c] else none
  | c :: '_' :: rest => if isDigit c then (digits? isDigit rest).map (c :: ·) else none
  | c :: rest => if isDigit c then (digits? isDigit rest).map (c :: ·) else none

/-- The digits of a whole number: no zero stands in front of another digit. -/
def wholeDigits? (s : List Char) : Option (List Char) :=
  match s with
  | ['0'] => some ['0']
  | '0' :: _ => none
  | _ => digits? Char.isDigit s

/-- Takes the sign off a number.  Says whether it was a minus sign. -/
def splitSign : List Char → Bool × List Char
  | '-' :: rest => (true, rest)
  | '+' :: rest => (false, rest)
  | rest => (false, rest)

/-- A natural number to the given base, if it fits into 64 bits with a sign. -/
def prefixedInteger? (base : Nat) (s : List Char) : Option Int := do
  let digits ← digits? (fun c => (Chars.hexValue? c).any (· < base)) s
  let n ← Chars.numberToBase? base digits
  if n < Numeral.int64Bound then some n else none

/-- A decimal integer, if it fits into 64 bits with a sign. -/
def decimalInteger? (s : List Char) : Option Int := do
  let (negative, rest) := splitSign s
  let digits ← wholeDigits? rest
  let n ← Chars.natural? digits
  let value : Int := if negative then -(n : Int) else n
  if Numeral.fitsInt64 value then some value else none

/-- An integer. -/
def integer? : List Char → Option Int
  | '0' :: 'x' :: rest => prefixedInteger? 16 rest
  | '0' :: 'o' :: rest => prefixedInteger? 8 rest
  | '0' :: 'b' :: rest => prefixedInteger? 2 rest
  | s => decimalInteger? s

/-- A floating-point numeral without the underscores: it has a fraction or an
exponent, or both. -/
def floatParts? (s : List Char) : Option DecimalParts := do
  let parts := DecimalParts.ofChars s
  if parts.fraction.isNone && parts.exponent.isNone then none
  else
    let whole ← wholeDigits? parts.whole
    let fraction ← parts.fraction.mapM (digits? Char.isDigit)
    let exponent ← parts.exponent.mapM fun exponent => do
      let (negative, rest) := splitSign exponent
      let digits ← digits? Char.isDigit rest
      return if negative then '-' :: digits else digits
    return ⟨whole, fraction, exponent⟩

/-- Whether a word is a floating-point number.  One that is too large is none. -/
def isFloat (s : List Char) : Bool :=
  let (negative, rest) := splitSign s
  if rest = ['i', 'n', 'f'] || rest = ['n', 'a', 'n'] then true
  else
    match floatParts? rest >>= DecimalParts.number? negative with
    | some value => value ≠ .infinite false
    | none => false

/-! ### Dates and times -/

/-- The number that exactly two digits stand for, if it lies in a range. -/
def twoDigits? (low high : Nat) (a b : Char) : Bool :=
  (Chars.natural? [a, b]).any fun n => low ≤ n && n ≤ high

/-- The number of days in a month. -/
def daysIn (year month : Nat) : Nat :=
  if month = 2 then
    if year % 4 = 0 && (year % 100 ≠ 0 || year % 400 = 0) then 29 else 28
  else if month = 4 || month = 6 || month = 9 || month = 11 then 30
  else 31

/-- Whether a word is a date. -/
def isDate : List Char → Bool
  | [a, b, c, d, '-', e, f, '-', g, h] =>
    match Chars.natural? [a, b, c, d], Chars.natural? [e, f], Chars.natural? [g, h] with
    | some year, some month, some day =>
      1 ≤ month && month ≤ 12 && 1 ≤ day && day ≤ daysIn year month
    | _, _, _ => false
  | _ => false

/-- Whether a word is empty or the offset of a time zone. -/
def isOffset : List Char → Bool
  | [] => true
  | ['Z'] => true
  | ['z'] => true
  | [sign, a, b, ':', c, d] =>
    (sign = '+' || sign = '-') && twoDigits? 0 23 a b && twoDigits? 0 59 c d
  | _ => false

/-- What follows a time of day at the start of a word, if there is one. -/
def afterTime? : List Char → Option (List Char)
  | a :: b :: ':' :: c :: d :: ':' :: e :: f :: rest =>
    if twoDigits? 0 23 a b && twoDigits? 0 59 c d && twoDigits? 0 60 e f then
      match rest with
      | '.' :: fraction =>
        if (fraction.takeWhile Char.isDigit).isEmpty then none
        else some (fraction.dropWhile Char.isDigit)
      | rest => some rest
    else none
  | _ => none

/-- Whether a word is a time of day, with or without an offset. -/
def isTimeWithOffset (s : List Char) : Bool :=
  (afterTime? s).any isOffset

/-- Whether a word is a date, a time of day, or both. -/
def isMoment (s : List Char) : Bool :=
  isDate s || afterTime? s = some [] ||
    (isDate (s.take 10) &&
      match s.drop 10 with
      | c :: time => (c = 'T' || c = 't') && isTimeWithOffset time
      | [] => false)

/-! ### Words -/

/-- Whether a character can be part of a word. -/
def isWordChar (c : Char) : Bool :=
  c.isAlphanum || c = '+' || c = '-' || c = '_' || c = '.' || c = ':'

/-- The value of a word. -/
def word? (s : List Char) : Option Toml :=
  if s = "true".toList then some (.boolean true)
  else if s = "false".toList then some (.boolean false)
  else
    match integer? s with
    | some value => some (.integer value)
    | none => if isMoment s then some .moment else if isFloat s then some .float else none

/-- Reads a word, or a date and a time with a space in between. -/
def readWord (s : List Char) : Option (Toml × List Char) :=
  let first := s.takeWhile isWordChar
  let rest := s.dropWhile isWordChar
  let second := (rest.drop 1).takeWhile isWordChar
  if isDate first && rest.head? = some ' ' && !second.isEmpty then
    if isTimeWithOffset second then some (.moment, (rest.drop 1).dropWhile isWordChar) else none
  else (word? first).map fun value => (value, rest)

end SqlNotebook.Toml
