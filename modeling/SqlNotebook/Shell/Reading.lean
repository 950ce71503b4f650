/-
SqlNotebook/Shell/Reading.lean

Reading what is entered at the prompt, line by line.

A line that ends in `\` goes on with the next line.  A line that starts with `%%`
opens a cell: the rest of the line is its instruction, and the lines below it, up
to a line with `%%` alone, are its body, whatever they look like.  An interrupt
drops what has been begun.  Backspaces are applied to each line as it is entered.
-/
import SqlNotebook.Text.Backspace

namespace SqlNotebook.Shell

/-- Something that is asked for at the prompt. -/
inductive Request
  /-- To run an instruction, with a body if it comes from a cell. -/
  | execute (instruction : String) (body : Option String)
  | setVariable (name : String) (value : String)
  /-- To give a variable a value, without saying which or what. -/
  | setNothing
  | listMacros
  | clearScreen
  | help
  | quit
deriving DecidableEq, Repr

/-- What happens at the prompt. -/
inductive Event
  | line (text : String)
  | interrupt
deriving DecidableEq, Repr

namespace Event

/-- Entering a line. -/
def ofInput (line : String) : Event :=
  .line (Text.applyBackspaces line)

/-- Entering the lines of a text, one after the other. -/
def ofText (text : String) : List Event :=
  (Text.lines text).map ofInput

end Event

/-- A cell that has been opened, with the lines of its body so far. -/
structure OpenCell where
  instruction : String
  body : List String := []
deriving DecidableEq, Repr

/-- What has been begun: what has been entered of a line before, and the cell that is
open, if there is one. -/
structure Reading where
  pending : String := ""
  cell : Option OpenCell := none
deriving DecidableEq, Repr

/-- The request to give a variable a value: its name, a space, and the value. -/
def Request.ofAssignment (assignment : String) : Request :=
  match Text.cutAt? ' ' (Text.trim assignment) with
  | some (name, value) => .setVariable name (Text.trim value)
  | none => .setNothing

/-- What a line asks for that opens no cell. -/
def Request.ofLine (line : String) : Request :=
  match line with
  | ".exit" | ".quit" | "exit" | "quit" => .quit
  | ".help" => .help
  | ".macros" => .listMacros
  | ".clear" => .clearScreen
  | _ =>
    match ".set ".toList.isPrefixOf? line.toList with
    | some assignment => .ofAssignment (String.ofList assignment)
    | none => .execute line none

namespace Reading

/-- Nothing has been begun. -/
def start : Reading := {}

/-- Whether nothing has been begun. -/
def isStart (reading : Reading) : Bool :=
  reading.pending = "" && reading.cell.isNone

/-- What opens a cell, and ends it. -/
def cellMark : String := "%%"

/-- A line without the `\` at its end, if it has one. -/
def continued? (s : List Char) : Option (List Char) :=
  if s.getLast? = some '\\' then some s.dropLast else none

/-- Takes in a whole line, without blanks at its ends. -/
def accept (text : String) : Reading × Option Request :=
  if text = "" then (start, none)
  else
    match cellMark.toList.isPrefixOf? text.toList with
    | some instruction =>
      ({ cell := some { instruction := String.ofList (Chars.trim instruction) } }, none)
    | none => (start, some (.ofLine text))

/-- Takes in what happens at the prompt. -/
def next (reading : Reading) : Event → Reading × Option Request
  | .interrupt => ({ reading with pending := "", cell := none }, none)
  | .line text =>
    match reading.cell with
    | some cell =>
      if Text.trim text = cellMark then
        ({ reading with cell := none },
          some (.execute cell.instruction (some (Text.join "\n" cell.body))))
      else
        ({ reading with cell := some { cell with body := cell.body ++ [text] } }, none)
    | none =>
      let entered := Chars.trimEnd text.toList
      match continued? entered with
      | some head =>
        ({ reading with pending := reading.pending ++ String.ofList head ++ " " }, none)
      | none => accept (Text.trim (reading.pending ++ String.ofList entered))

/-- The prompt for the next line. -/
def prompt (reading : Reading) : String :=
  if reading.isStart then "sql> " else "...> "

end Reading

end SqlNotebook.Shell
