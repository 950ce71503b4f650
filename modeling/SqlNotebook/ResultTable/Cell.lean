/-
SqlNotebook/ResultTable/Cell.lean

The values in a result.
-/
import SqlNotebook.Decimal.Layout
import SqlNotebook.Json.Basic

namespace SqlNotebook

/-- A value in a row, or the mark for a missing one. -/
inductive Cell
  | null
  | boolean (value : Bool)
  | integer (value : Int)
  | float (value : Binary64)
  | text (value : String)
deriving DecidableEq, Repr

namespace Cell

/-- The text that is shown for a cell. -/
def display : Cell → String
  | null => "NULL"
  | boolean value => if value then "true" else "false"
  | integer value => toString value
  | float value => value.positional
  | text value => value

/-- The document for a cell. -/
def toJson : Cell → Json
  | null => .null
  | boolean value => .boolean value
  | integer value => .number (.integer value)
  | float value => .ofBinary64 value
  | text value => .text value

end Cell

end SqlNotebook
