/-
SqlNotebook/Text/Upper.lean

Upper-casing a text: letter by letter, by the table of `UpperTable`.  A letter
that the table does not mention stays as it is.
-/
import SqlNotebook.Text.UpperTable

namespace SqlNotebook

namespace Chars

/-- The upper-case form of one letter, which may be several. -/
def upperLetter (c : Char) : List Char :=
  match Text.caseExpansions.lookup c.toNat with
  | some letters => letters.map Char.ofNat
  | none =>
    match Text.caseRuns.find? (·.covers c.toNat) with
    | some run => [Char.ofNat (c.toNat + run.offset).toNat]
    | none => [c]

/-- The upper-case form of a text. -/
def upper (s : List Char) : List Char :=
  s.flatMap upperLetter

/-- The letters `a` to `z` in upper case; nothing else changes. -/
def upperAscii (s : List Char) : List Char :=
  s.map Char.toUpper

/-- The letters `A` to `Z` in lower case; nothing else changes. -/
def lowerAscii (s : List Char) : List Char :=
  s.map Char.toLower

end Chars

namespace Text

/-- The upper-case form of a text. -/
def upper (s : String) : String :=
  String.ofList (Chars.upper s.toList)

/-- The letters `a` to `z` in upper case; nothing else changes. -/
def upperAscii (s : String) : String :=
  String.ofList (Chars.upperAscii s.toList)

/-- The letters `A` to `Z` in lower case; nothing else changes. -/
def lowerAscii (s : String) : String :=
  String.ofList (Chars.lowerAscii s.toList)

@[simp] theorem toList_upper (s : String) : (upper s).toList = Chars.upper s.toList := by
  simp [upper]

@[simp] theorem toList_upperAscii (s : String) :
    (upperAscii s).toList = Chars.upperAscii s.toList := by
  simp [upperAscii]

end Text

end SqlNotebook
