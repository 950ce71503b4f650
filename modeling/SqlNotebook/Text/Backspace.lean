/-
SqlNotebook/Text/Backspace.lean

Backspaces in a text that has been entered: each takes back the character in
front of it, as a reader sees characters.
-/
import SqlNotebook.Text.Blank
import SqlNotebook.Text.Cluster

namespace SqlNotebook

namespace Chars

/-- The backspace. -/
def backspace : Char := '\x08'

/-- Drops characters until `n` bytes are gone. -/
def dropBytes : Nat → List Char → List Char
  | 0, s => s
  | _, [] => []
  | n, c :: rest => dropBytes (n - c.utf8Size) rest

/-- A text in the course of being entered. -/
structure Entry where
  /-- What stands there, from the end. -/
  text : List Char := []
  /-- The sizes of the clusters that can be taken back, the last one first.  A
  size is kept in one byte: of a cluster of 256 bytes or more, only what is left
  over can be taken back. -/
  sizes : List UInt8 := []

/-- The size of a cluster. -/
def Entry.size (cluster : List Char) : UInt8 :=
  (String.ofList cluster).utf8ByteSize.toUInt8

/-- Enters a cluster. -/
def Entry.press (entry : Entry) (cluster : List Char) : Entry :=
  if cluster = [backspace] then
    match entry.sizes with
    | [] => entry
    | size :: sizes => ⟨dropBytes size.toNat entry.text, sizes⟩
  else ⟨cluster.reverse ++ entry.text, Entry.size cluster :: entry.sizes⟩

/-- What is left of a text when its backspaces have been applied. -/
def applyBackspaces (s : List Char) : List Char :=
  ((clusters s).foldl Entry.press {}).text.reverse

end Chars

namespace Text

/-- What is left of a text when its backspaces have been applied. -/
def applyBackspaces (s : String) : String :=
  onChars Chars.applyBackspaces s

end Text

end SqlNotebook
