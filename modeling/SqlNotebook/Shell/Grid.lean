/-
SqlNotebook/Shell/Grid.lean

Tables of text in columns.  Every column is as wide as its longest text, counted
in characters; texts stand at the left.  A row may have fewer texts than there
are columns, and then ends early; texts without a column are left out.
-/
import SqlNotebook.Text.Blank

namespace SqlNotebook.Shell.Grid

/-- Makes columns wide enough for a row. -/
def widen : List Nat → List String → List Nat
  | width :: widths, text :: texts => max width text.length :: widen widths texts
  | widths, _ => widths

/-- The widths of the columns. -/
def widths (header : List String) (rows : List (List String)) : List Nat :=
  rows.foldl widen (header.map String.length)

/-- A text, made as wide as its column. -/
def pad (text : String) (width : Nat) : String :=
  text ++ String.ofList (List.replicate (width - text.length) ' ')

/-- The line for a row. -/
def rowLine (widths : List Nat) (texts : List String) : String :=
  Text.join " │ " (List.zipWith pad texts widths)

/-- The line below the header. -/
def ruleLine (widths : List Nat) : String :=
  Text.join "─┼─" (widths.map fun width => String.ofList (List.replicate width '─'))

/-- The lines of a table. -/
def lines (header : List String) (rows : List (List String)) : List String :=
  let widths := widths header rows
  rowLine widths header :: ruleLine widths :: rows.map (rowLine widths)

end SqlNotebook.Shell.Grid
