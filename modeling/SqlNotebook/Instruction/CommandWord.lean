/-
SqlNotebook/Instruction/CommandWord.lean

The word that an instruction or a statement starts with.
-/
import SqlNotebook.Text.Upper

namespace SqlNotebook

namespace Chars

/-- Whether a character may stand around a command word. -/
def isCommandSpace (c : Char) : Bool :=
  c = ' ' || c = '\t' || c = '\r' || c = '\n'

/-- The letters that a text starts with, in upper case, if white space or the
end follows them. -/
def commandWord (s : List Char) : List Char :=
  let start := s.dropWhile isCommandSpace
  match start.dropWhile Char.isAlpha with
  | [] => upperAscii start
  | c :: _ => if isCommandSpace c then upperAscii (start.takeWhile Char.isAlpha) else []

end Chars

/-- The command word of a text, in upper case; empty if there is none. -/
def commandWord (text : String) : String :=
  String.ofList (Chars.commandWord text.toList)

end SqlNotebook
