/-
SqlNotebook/Token.lean

The tokens of a line.  Tokens are separated by single spaces and tabs, which
lose that meaning inside a quoted run and between parentheses:

    echo 'hello world' values(1, 'a b')  x

has the five tokens `echo`, `'hello world'`, `values(1, 'a b')`, `null` and `x`,
where `null` stands for the empty slot between two separators in a row.  Quotes
and parentheses stay in the token, do not nest, and may be left open at the end.
-/
import SqlNotebook.Text.Blank
import SqlNotebook.Text.Quote

namespace SqlNotebook.Token

/-- Where the scan for separators stands. -/
inductive Mode
  | plain
  | quoted (quote : Char)
  | block
deriving DecidableEq, Repr

/-- The mode behind the character `c`. -/
def Mode.next : Mode → Char → Mode
  | .plain, c => if c = '(' then .block else if isQuote c then .quoted c else .plain
  | .quoted quote, c => if c = quote then .plain else .quoted quote
  | .block, c => if c = ')' then .plain else .block

/-- Whether a character can separate tokens. -/
def isSeparator (c : Char) : Bool :=
  c = ' ' || c = '\t'

/-- Whether the character `c` separates two tokens in the given mode. -/
def Mode.separates : Mode → Char → Bool
  | .plain, c => isSeparator c
  | _, _ => false

/-- The token that stands for an empty slot. -/
def emptySlot : String := "null"

/-- Turns slots into tokens: an empty slot becomes `null`, an empty slot at the
end becomes nothing, and `finish` is applied to every other one. -/
def fillSlots (finish : String → String) : List (List Char) → List String
  | [] => []
  | [last] => if last.isEmpty then [] else [finish (String.ofList last)]
  | slot :: rest =>
    (if slot.isEmpty then emptySlot else finish (String.ofList slot)) :: fillSlots finish rest

theorem fillSlots_cons_cons (finish : String → String) (slot next : List Char)
    (rest : List (List Char)) :
    fillSlots finish (slot :: next :: rest) =
      (if slot.isEmpty then emptySlot else finish (String.ofList slot)) ::
        fillSlots finish (next :: rest) := rfl

/-- The slots of a line, empty ones included. -/
def slots (line : List Char) : List (List Char) :=
  Chars.scanPieces Mode.next Mode.separates .plain (Chars.trimStart line)

/-- The tokens of a line, with `finish` applied to each one that is written out. -/
def splitWith (finish : String → String) (line : String) : List String :=
  fillSlots finish (slots line.toList)

/-- The tokens of a line. -/
def split (line : String) : List String :=
  splitWith id line

/-- A blank line has no tokens. -/
theorem split_of_isBlank {line : String} (h : Text.isBlank line) : split line = [] := by
  rw [split, splitWith, slots, Chars.trimStart_of_all h]
  rfl

theorem fillSlots_congr {finish other : String → String} {parts : List (List Char)}
    (h : ∀ slot ∈ parts, finish (String.ofList slot) = other (String.ofList slot)) :
    fillSlots finish parts = fillSlots other parts := by
  induction parts with
  | nil => rfl
  | cons slot rest ih =>
    have hslot := h slot List.mem_cons_self
    have hrest := ih fun other hother => h other (List.mem_cons_of_mem slot hother)
    cases rest with
    | nil => simp [fillSlots, hslot]
    | cons next rest => simp only [fillSlots, hslot, hrest]

theorem splitWith_congr {finish other : String → String} {line : String}
    (h : ∀ slot ∈ slots line.toList, finish (String.ofList slot) = other (String.ofList slot)) :
    splitWith finish line = splitWith other line :=
  fillSlots_congr h

theorem head?_fillSlots (finish : String → String) (parts : List (List Char))
    (kept : ∀ token, (fillSlots id parts).head? = some token → finish token = token) :
    (fillSlots finish parts).head? = (fillSlots id parts).head? := by
  rcases parts with - | ⟨slot, - | ⟨next, rest⟩⟩
  · rfl
  · by_cases h : slot.isEmpty
    · simp [fillSlots, h]
    · simpa [fillSlots, h] using kept
  · by_cases h : slot.isEmpty
    · simp [fillSlots, h]
    · simpa [fillSlots, h] using kept

/-- A first token that `finish` does not change stands first also among the
finished tokens. -/
theorem head?_splitWith (finish : String → String) (line : String)
    (kept : ∀ token, (split line).head? = some token → finish token = token) :
    (splitWith finish line).head? = (split line).head? :=
  head?_fillSlots finish _ kept

end SqlNotebook.Token
