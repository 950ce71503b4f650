/-
SqlNotebook/HostValue.lean

The values of host variables, and how they stand in SQL.
-/
import SqlNotebook.ResultTable.Basic

namespace SqlNotebook

/-- A value that a host variable can have. -/
inductive HostValue
  | integer (value : Int)
  | float (value : Binary64)
  /-- A text, which is quoted in SQL. -/
  | text (value : String)
  /-- A text that stands in SQL as it is. -/
  | raw (value : String)
  /-- A list, written with commas and without parentheses. -/
  | list (items : List HostValue)
  /-- A table, written as rows in parentheses. -/
  | table (value : ResultTable)
  /-- A document, which is quoted in SQL. -/
  | document (value : Json)
deriving Repr

namespace HostValue

instance : Inhabited HostValue := ⟨.raw ""⟩

/-- The value for a text: one that starts with `0x` is a hexadecimal literal and
stands in SQL as it is. -/
def ofText (value : String) : HostValue :=
  if "0x".toList.isPrefixOf value.toList then .raw value else .text value

mutual

/-- The value for a document. -/
def ofJson : Json → HostValue
  | .null => .raw "NULL"
  | .boolean value => .raw (if value then "TRUE" else "FALSE")
  | .number (.integer value) =>
    if value < Numeral.int64Bound then .integer value else .float (.ofNat value.toNat)
  | .number (.real value) => .float value
  | .text value => ofText value
  | .array items => .list (ofJsonItems items)
  | .object members => .document (.object members)

/-- The values for the items of an array. -/
def ofJsonItems : List Json → List HostValue
  | [] => []
  | item :: rest => ofJson item :: ofJsonItems rest

end

/-- The value for an argument: a document if it is one, and a text otherwise. -/
def ofArgument (argument : String) : HostValue :=
  match Json.ofText? argument with
  | some parsed => ofJson parsed
  | none => ofText argument

/-- Whether the value is a list. -/
def isList : HostValue → Bool
  | .list _ => true
  | _ => false

/-- The characters of a text with every single quote doubled. -/
def doubleQuotes (s : List Char) : List Char :=
  s.flatMap fun c => if c = '\'' then ['\'', '\''] else [c]

/-- A text as a string literal. -/
def literal (value : String) : String :=
  String.ofList ('\'' :: (doubleQuotes value.toList ++ ['\'']))

/-- A text, as a string literal if asked for. -/
def quoted (quote : Bool) (value : String) : String :=
  if quote then literal value else value

/-- A cell of a column of the given kind.  Missing and undefined values are
`NULL`, and values in a column of text are string literals. -/
def cellSql (kind : ColumnKind) : Cell → String
  | .null => "NULL"
  | .float value =>
    if value.isNan then "NULL" else quoted (kind = .text) value.positional
  | cell => quoted (kind = .text) cell.display

/-- A row in parentheses. -/
def rowSql (columns : List Column) (row : List Cell) : String :=
  let cells := (columns.zip row).map fun (column, cell) => cellSql column.kind cell
  "(" ++ Text.join "," cells ++ ")"

/-- The rows of a table. -/
def tableSql (table : ResultTable) : String :=
  Text.join "," (table.rows.map (rowSql table.columns))

mutual

/-- The value in SQL.  Texts and documents are string literals if `quote` says
so; inside a list they always are. -/
def toSql (quote : Bool) : HostValue → String
  | .integer value => toString value
  | .float value => value.positional
  | .text value => quoted quote value
  | .raw value => value
  | .list items => Text.join "," (itemsSql items)
  | .table value => tableSql value
  | .document value => quoted quote value.render

/-- The items of a list in SQL. -/
def itemsSql : List HostValue → List String
  | [] => []
  | item :: rest => toSql true item :: itemsSql rest

end

end HostValue

end SqlNotebook
