/-
SqlNotebook/Shell/Output.lean

What the shell prints: pieces of text, each to one of two streams.
-/
import SqlNotebook.Text.Blank

namespace SqlNotebook.Shell

/-- A piece of text and the stream that it goes to. -/
inductive Piece
  | out (text : String)
  | err (text : String)
deriving DecidableEq, Repr

/-- What is printed, in order. -/
abbrev Output := List Piece

namespace Output

/-- A line of output. -/
def line (text : String) : Output :=
  [.out (text ++ "\n")]

/-- Lines of output. -/
def lines (texts : List String) : Output :=
  texts.flatMap line

/-- A line among the errors. -/
def errorLine (text : String) : Output :=
  [.err (text ++ "\n")]

/-- Everything that goes to the stream for output. -/
def standard (output : Output) : String :=
  Text.join "" (output.filterMap fun
    | .out text => some text
    | .err _ => none)

/-- Everything that goes to the stream for errors. -/
def errors (output : Output) : String :=
  Text.join "" (output.filterMap fun
    | .out _ => none
    | .err text => some text)

end Output

end SqlNotebook.Shell
