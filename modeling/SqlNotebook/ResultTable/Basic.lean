/-
SqlNotebook/ResultTable/Basic.lean

The tables that queries return: named and typed columns, rows, and a label for
each row.  A row that is added is labelled with its position.  Tables that are
put together keep their labels, so that labels can repeat until the rows are
labelled anew.
-/
import SqlNotebook.Json.Printer
import SqlNotebook.Json.Reader
import SqlNotebook.ResultTable.Cell
import SqlNotebook.ResultTable.Column

namespace SqlNotebook

/-- A table of results. -/
structure ResultTable where
  columns : List Column
  rows : List (List Cell)
  /-- The labels of the rows. -/
  index : List Nat
deriving DecidableEq, Repr

namespace ResultTable

/-- The table with the given columns and no rows. -/
def ofColumns (columns : List Column) : ResultTable :=
  ⟨columns, [], []⟩

/-- The table with neither columns nor rows. -/
def empty : ResultTable :=
  ofColumns []

instance : Inhabited ResultTable := ⟨empty⟩

/-- Adds a row, labelled with its position. -/
def push (table : ResultTable) (row : List Cell) : ResultTable :=
  { table with rows := table.rows ++ [row], index := table.index ++ [table.rows.length] }

/-- Adds rows, each labelled with its position. -/
def pushAll (table : ResultTable) (rows : List (List Cell)) : ResultTable :=
  rows.foldl push table

/-- The number of rows. -/
def size (table : ResultTable) : Nat :=
  table.rows.length

/-- Whether there are no rows. -/
def isEmpty (table : ResultTable) : Bool :=
  table.rows.isEmpty

/-- Puts a second table below the first.  The columns are those of the first
table, unless it has none. -/
def stack (upper lower : ResultTable) : ResultTable where
  columns := if upper.columns.isEmpty then lower.columns else upper.columns
  rows := upper.rows ++ lower.rows
  index := upper.index ++ lower.index

/-- Puts tables below one another. -/
def concat : List ResultTable → ResultTable
  | [] => empty
  | first :: rest => rest.foldl stack first

/-- Labels every row with its position. -/
def resetIndex (table : ResultTable) : ResultTable :=
  { table with index := List.range table.rows.length }

theorem empty_stack (table : ResultTable) : stack empty table = table := rfl

theorem stack_empty (table : ResultTable) : stack table empty = table := by
  obtain ⟨columns, rows, index⟩ := table
  rw [stack, mk.injEq]
  refine ⟨?_, List.append_nil rows, List.append_nil index⟩
  cases columns with
  | nil => rfl
  | cons => rfl

theorem stack_assoc (upper middle lower : ResultTable) :
    stack (stack upper middle) lower = stack upper (stack middle lower) := by
  obtain ⟨columns, rows, index⟩ := upper
  rw [stack, mk.injEq]
  refine ⟨?_, List.append_assoc .., List.append_assoc ..⟩
  -- Without columns at the top, both sides ask the two tables below.
  cases columns with
  | nil => rfl
  | cons => rfl

instance : Std.Associative stack := ⟨stack_assoc⟩

theorem concat_eq_foldl (tables : List ResultTable) : concat tables = tables.foldl stack empty := by
  cases tables with
  | nil => rfl
  | cons table tables => rw [List.foldl_cons, empty_stack, concat]

theorem concat_cons (table : ResultTable) (tables : List ResultTable) :
    concat (table :: tables) = stack table (concat tables) := by
  calc concat (table :: tables)
      = tables.foldl stack (stack table empty) := by rw [stack_empty, concat]
    _ = stack table (tables.foldl stack empty) := List.foldl_assoc
    _ = stack table (concat tables) := by rw [concat_eq_foldl]

/-- The rows of tables below one another are the rows of the tables, in order. -/
theorem rows_concat (tables : List ResultTable) :
    (concat tables).rows = tables.flatMap (·.rows) := by
  induction tables with
  | nil => rfl
  | cons table tables ih => rw [concat_cons, stack, ih, List.flatMap_cons]

/-- The rows as objects with the columns' names. -/
def records (table : ResultTable) : List Json :=
  table.rows.map fun row =>
    .ofMembers ((table.columns.zip row).map fun (column, cell) => (column.name, cell.toJson))

/-- The names of the columns, and the rows, each as a list of documents. -/
def arrays (table : ResultTable) : List (List Json) :=
  table.columns.map (.text ·.name) :: table.rows.map (·.map Cell.toJson)

/-- The document that a cell holds: a text is read as a document if it is one. -/
def cellDocument : Cell → Json
  | .text value => (Json.ofText? value).getD (.text value)
  | cell => cell.toJson

/-- The documents in the first column. -/
def firstDocuments (table : ResultTable) : List Json :=
  table.rows.filterMap fun row => row.head?.map cellDocument

/-- The table as a document on one line. -/
def render (table : ResultTable) : String :=
  let column (c : Column) : String :=
    "\x7b\"name\":" ++ Json.quote c.name ++ ",\"type_name\":" ++ Json.quote c.typeName ++
      ",\"kind\":" ++ Json.quote c.kind.name ++ "\x7d"
  let row (cells : List Cell) : String := (Json.array (cells.map Cell.toJson)).render
  let list (parts : List String) : String := "[" ++ Text.join "," parts ++ "]"
  "\x7b\"columns\":" ++ list (table.columns.map column) ++
    ",\"rows\":" ++ list (table.rows.map row) ++
    ",\"index\":" ++ list (table.index.map toString) ++ "\x7d"

end ResultTable

end SqlNotebook
