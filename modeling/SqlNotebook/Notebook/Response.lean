/-
SqlNotebook/Notebook/Response.lean

What comes back from an instruction, and how the rows of a query are shown.

The flags decide in which form rows are shown.  A query that returns no rows is
reported, unless it is to be shown in a form that has room for no rows.
-/
import SqlNotebook.Notebook.Basic

namespace SqlNotebook

/-- What an instruction has produced. -/
inductive Outcome
  /-- A table, of which the first `visible` rows are to be shown. -/
  | table (table : ResultTable) (visible : Nat)
  /-- The documents in the first column. -/
  | documents (documents : List Json)
  /-- The names of the columns, and the rows. -/
  | raw (rows : List (List Json))
  | noRows
  /-- The number of rows that statements without an answer set have changed. -/
  | completed (affected : UInt64)
  | defined (name : String)
  | options
  | connected
  | disconnected
  | help
  | nothing

/-- An outcome with what has been reported on the way. -/
structure Response where
  outcome : Outcome
  notices : List Notice := []

/-- A response with earlier notices in front. -/
def Response.after (response : Response) (earlier : List Notice) : Response :=
  { response with notices := earlier ++ response.notices }

namespace Notebook

/-- Notes that a query has returned no rows, if that is so. -/
def noteSize (notebook : Notebook) (table : ResultTable) : Notebook :=
  if table.isEmpty then
    { notebook with status := { notebook.status with code := Status.noRowsCode } }
  else notebook

/-- How the rows of a query are shown. -/
def shown (notebook : Notebook) (table : ResultTable) : Response :=
  if notebook.has .documents then { outcome := .documents table.firstDocuments }
  else if notebook.has .raw then { outcome := .raw table.arrays }
  else if table.isEmpty then
    { outcome := .noRows
      notices := if notebook.has .quiet then [] else [.error "No rows found"] }
  else
    { outcome := .table table
        (notebook.settings.visibleRows table.size (notebook.has .all)) }

end Notebook

/-- Shows the rows of a query. -/
def Action.present (table : ResultTable) : Action Response := do
  modify fun notebook => notebook.noteSize table
  return (← get).shown table

end SqlNotebook
