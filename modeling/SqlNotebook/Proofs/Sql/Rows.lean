/-
SqlNotebook/Proofs/Sql/Rows.lean

Tables in SQL are read back.  A table is written as its rows, each in parentheses and with commas
between its values:

    (1,'a'),(NULL,'NULL')     is     1,  the string a      in the first row and
                                     NULL,  the string NULL  in the second one

Which values are strings depends on the column alone.  If every row has a cell for each column,
and texts stand in columns of text only, then reading finds the rows and cells again, in order
(`readRows_toSql`): `NULL` for the cells without a value and for no others, and for every other
cell the text that is shown for it, as a string exactly in the columns of text.
-/
import SqlNotebook.Proofs.Sql.Lists

namespace SqlNotebook

namespace Sql

/-! ### Reading -/

/-- The row of which the opening parenthesis has been read, and the rows behind it. -/
def restOfRow? : List Lexeme → Option (List Literal × List (List Literal))
  | [.value literal, .closing] => some ([literal], [])
  | .value literal :: .closing :: .comma :: .opening :: rest =>
    (restOfRow? rest).map fun (next, rows) => ([literal], next :: rows)
  | .value literal :: .comma :: rest =>
    (restOfRow? rest).map fun (row, rows) => (literal :: row, rows)
  | _ => none

/-- The rows in parentheses, with commas between them. -/
def rows? : List Lexeme → Option (List (List Literal))
  | [] => some []
  | .opening :: rest => (restOfRow? rest).map fun (row, rows) => row :: rows
  | _ => none

/-- Reads the rows of a table. -/
def readRows (sql : String) : Option (List (List Literal)) := do
  let lexemes ← lex? sql
  rows? lexemes

/-! ### Reading what has been written -/

/-- A row in parentheses. -/
def inParentheses (row : List Literal) : List Lexeme :=
  .opening :: (commaSeparated row ++ [.closing])

variable {row : List Literal} {rows : List (List Literal)}

/-- A row is read up to its last value, and from there on as what follows that value. -/
theorem restOfRow?_commaSeparated {lexemes : List Lexeme} (h : row ≠ [])
    (hlast : ∀ literal, restOfRow? (.value literal :: .closing :: lexemes) = some ([literal], rows)) :
    restOfRow? (commaSeparated row ++ .closing :: lexemes) = some (row, rows) := by
  induction row with
  | nil => exact absurd rfl h
  | cons literal row ih =>
    cases row with
    | nil => exact hlast literal
    | cons next row =>
      rw [commaSeparated_cons_cons, List.cons_append, List.cons_append, restOfRow?,
        ih (List.cons_ne_nil next row), Option.map_some]

/-- Rows in parentheses are read as these rows. -/
theorem rows?_inParentheses (h : ∀ row ∈ rows, row ≠ []) :
    rows? ([.comma].intercalate (rows.map inParentheses)) = some rows := by
  induction rows with
  | nil => rfl
  | cons row rows ih =>
    rw [List.forall_mem_cons] at h
    cases rows with
    | nil =>
      rw [List.map_singleton, List.intercalate_singleton, inParentheses, rows?,
        restOfRow?_commaSeparated h.1 fun _ => rfl, Option.map_some]
    | cons next rows =>
      -- what follows the first row is read from behind the parenthesis of the second one
      let behind := [.comma].intercalate
        ((commaSeparated next ++ [.closing]) :: rows.map inParentheses)
      have hrest : rows? (.opening :: behind) = some (next :: rows) := by
        rw [← ih h.2, List.map_cons, inParentheses, List.intercalate_cons_cons_left]
      obtain ⟨⟨first, more⟩, hread, heq⟩ := Option.map_eq_some_iff.mp hrest
      have hlast (literal : Literal) :
          restOfRow? (.value literal :: .closing :: .comma :: .opening :: behind) =
            some ([literal], next :: rows) := by
        rw [restOfRow?, hread, Option.map_some, ← heq]
      have hsplit : [.comma].intercalate ((row :: next :: rows).map inParentheses) =
          .opening :: (commaSeparated row ++ .closing :: .comma :: .opening :: behind) := by
        rw [List.map_cons, List.map_cons, List.intercalate_cons_cons, inParentheses, inParentheses,
          List.intercalate_cons_cons_left]
        simp [behind]
      rw [hsplit, rows?, restOfRow?_commaSeparated h.1 hlast, Option.map_some]

end Sql

/-! ### Cells -/

/-- Whether a cell is without a value, a truth value, an integer, or a text in a column of text. -/
def Cell.Fits (kind : ColumnKind) : Cell → Prop
  | .float _ => False
  | .text _ => kind = .text
  | _ => True

namespace Sql

/-- The value that stands for a cell of a column of the given kind. -/
def Literal.ofCell (kind : ColumnKind) (cell : Cell) : Literal :=
  if cell = .null then .null
  else if kind = .text then .quoted cell.display
  else .bare cell.display

variable {kind : ColumnKind} {cell : Cell} {columns : List Column} {cells : List Cell}

theorem spells_quoted {shown : String}
    (h : kind ≠ .text → Spells shown.toList [.value (.bare shown)]) :
    Spells (HostValue.quoted (kind = .text) shown).toList
      [.value (if kind = .text then .quoted shown else .bare shown)] := by
  rw [HostValue.quoted]
  by_cases hkind : kind = .text
  · simp only [hkind, decide_true, if_true]
    exact spells_literal shown
  · simp only [hkind, decide_false, if_false]
    exact h hkind

theorem spells_boolean (value : Bool) :
    Spells (Cell.boolean value).display.toList [.value (.bare (Cell.boolean value).display)] := by
  cases value with
  | false => exact spells_bare (by decide) (by decide) (by decide)
  | true => exact spells_bare (by decide) (by decide) (by decide)

theorem spells_cellSql (h : cell.Fits kind) :
    Spells (HostValue.cellSql kind cell).toList [.value (.ofCell kind cell)] := by
  cases cell with
  | null =>
    show Spells "NULL".toList [.value (.ofWord "NULL".toList)]
    exact spells_word (by decide) (by decide)
  | boolean value => exact spells_quoted fun _ => spells_boolean value
  | integer value => exact spells_quoted fun _ => spells_integer value
  | float value => cases h
  | text value => exact spells_quoted fun hkind => absurd h hkind

/-- The values of a row. -/
def literalsOf (columns : List Column) (cells : List Cell) : List Literal :=
  List.zipWith (fun column cell => .ofCell column.kind cell) columns cells

theorem length_literalsOf
    (h : List.Forall₂ (fun column cell => cell.Fits column.kind) columns cells) :
    (literalsOf columns cells).length = columns.length := by
  rw [literalsOf, List.length_zipWith, h.length_eq, Nat.min_self]

theorem spells_cells (h : List.Forall₂ (fun column cell => cell.Fits column.kind) columns cells) :
    List.Forall₂ (fun part literal => Spells part.toList [.value literal])
      ((columns.zip cells).map fun (column, cell) => HostValue.cellSql column.kind cell)
      (literalsOf columns cells) := by
  induction h with
  | nil => exact .nil
  | cons hcell _ ih => exact .cons (spells_cellSql hcell) ih

theorem spells_rowSql (h : List.Forall₂ (fun column cell => cell.Fits column.kind) columns cells) :
    Spells (HostValue.rowSql columns cells).toList (inParentheses (literalsOf columns cells)) := by
  have hvalues := spells_commaSeparated (spells_cells h)
  rw [HostValue.rowSql, String.toList_append, String.toList_append]
  exact spells_nil.mark rfl (hvalues.mark rfl spells_nil)

theorem spells_tableSql {table : ResultTable} (h : ∀ row ∈ table.rows,
      List.Forall₂ (fun column cell => cell.Fits column.kind) table.columns row) :
    Spells (HostValue.tableSql table).toList
      ([.comma].intercalate ((table.rows.map (literalsOf table.columns)).map inParentheses)) := by
  refine spells_join ?_
  rw [List.forall₂_map_left_iff, List.forall₂_map_right_iff, List.forall₂_map_right_iff,
    List.forall₂_same]
  exact fun row hrow => spells_rowSql (h row hrow)

/-- **Tables are read back.**  Where a table has a column, and every row has a cell for each
column that is without a value, a truth value, an integer, or a text in a column of text, the
table is written so that reading it finds exactly its rows, in order, with nothing left over.
Each row has a value for each column: `NULL` for a cell without a value and for no other, and
otherwise the text that is shown for the cell, as a string exactly in a column of text. -/
theorem readRows_toSql (table : ResultTable) (hcolumns : table.columns ≠ [])
    (hrows : ∀ row ∈ table.rows,
      List.Forall₂ (fun column cell => cell.Fits column.kind) table.columns row) (quote : Bool) :
    readRows ((HostValue.table table).toSql quote) =
        some (table.rows.map (literalsOf table.columns)) ∧
      ∀ row ∈ table.rows, (literalsOf table.columns row).length = table.columns.length := by
  have hlength (row : List Cell) (hrow : row ∈ table.rows) :
      (literalsOf table.columns row).length = table.columns.length :=
    length_literalsOf (hrows row hrow)
  have hne : ∀ row ∈ table.rows.map (literalsOf table.columns), row ≠ [] := by
    rw [List.forall_mem_map]
    intro row hrow hempty
    have hzero := hlength row hrow
    rw [hempty] at hzero
    exact hcolumns (List.length_eq_zero_iff.mp hzero.symm)
  refine ⟨?_, hlength⟩
  rw [HostValue.toSql, readRows, (spells_tableSql hrows).lex?_eq]
  exact rows?_inParentheses hne

/-- A table with cells that look like parts of other rows. -/
def trickyTable : ResultTable :=
  (ResultTable.ofColumns [⟨"ID", "INTEGER"⟩, ⟨"NAME", "VARCHAR"⟩]).pushAll
    [[.integer (-1), .text "'),(7,'"], [.null, .text "NULL"], [.boolean true, .null],
      [.boolean false, .integer 3]]

theorem readRows_toSql_trickyTable :
    trickyTable.columns ≠ [] ∧
      (∀ row ∈ trickyTable.rows,
        List.Forall₂ (fun column cell => cell.Fits column.kind) trickyTable.columns row) ∧
      (HostValue.table trickyTable).toSql true =
        "(-1,'''),(7,'''),(NULL,'NULL'),(true,NULL),(false,'3')" ∧
      readRows "(-1,'''),(7,'''),(NULL,'NULL'),(true,NULL),(false,'3')" =
        some [[.bare "-1", .quoted "'),(7,'"], [.null, .quoted "NULL"], [.bare "true", .null],
          [.bare "false", .quoted "3"]] := by
  have hcolumns : trickyTable.columns ≠ [] := List.cons_ne_nil _ _
  have hrows : ∀ row ∈ trickyTable.rows,
      List.Forall₂ (fun column cell => cell.Fits column.kind) trickyTable.columns row := by
    refine List.forall_mem_cons.mpr ⟨.cons trivial (.cons rfl .nil), ?_⟩
    refine List.forall_mem_cons.mpr ⟨.cons trivial (.cons rfl .nil), ?_⟩
    refine List.forall_mem_cons.mpr ⟨.cons trivial (.cons trivial .nil), ?_⟩
    exact List.forall_mem_cons.mpr ⟨.cons trivial (.cons trivial .nil), nofun⟩
  have hsql : (HostValue.table trickyTable).toSql true =
      "(-1,'''),(7,'''),(NULL,'NULL'),(true,NULL),(false,'3')" := by
    decide
  exact ⟨hcolumns, hrows, hsql, hsql ▸ (readRows_toSql trickyTable hcolumns hrows true).1⟩

end Sql

end SqlNotebook
