/-
SqlNotebook/ResultTable/Column.lean

The columns of a result.  The database names the type of each column; the kind
of the column, which decides how its values are written in SQL, follows from
that name.
-/
import SqlNotebook.Text.Upper

namespace SqlNotebook

/-- What the values of a column are. -/
inductive ColumnKind
  | text
  | integer
  | float
  | boolean
  | binary
deriving DecidableEq, Repr

namespace ColumnKind

/-- The kind of a column whose type has the given name, in upper or lower case. -/
def ofTypeName (typeName : String) : ColumnKind :=
  match Text.upperAscii typeName with
  | "BOOL" | "BOOLEAN" => .boolean
  | "INT2" | "INT4" | "INT8" | "INT" | "INTEGER" | "BIGINT" | "SMALLINT" | "TINYINT" => .integer
  | "FLOAT4" | "FLOAT8" | "REAL" | "DOUBLE" | "FLOAT" | "DECFLOAT" | "NUMERIC" | "DECIMAL" =>
    .float
  | "BLOB" | "BYTEA" | "BINARY" | "VARBINARY" => .binary
  | _ => .text

/-- The name of a kind. -/
def name : ColumnKind → String
  | text => "text"
  | integer => "integer"
  | float => "float"
  | boolean => "boolean"
  | binary => "binary"

end ColumnKind

/-- A column of a result. -/
structure Column where
  name : String
  typeName : String
deriving DecidableEq, Repr

/-- The kind of a column. -/
def Column.kind (column : Column) : ColumnKind :=
  .ofTypeName column.typeName

end SqlNotebook
