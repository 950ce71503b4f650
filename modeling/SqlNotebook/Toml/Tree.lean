/-
SqlNotebook/Toml/Tree.lean

Putting the lines of a document together.  A key with dots reaches into tables,
and makes those that are missing; it cannot reach into a table in braces, nor
into one that has a header of its own.  A header starts a new table, or a new
element of a list of tables, at its place.
-/
import SqlNotebook.Toml.Basic

namespace SqlNotebook.Toml

/-- The entries of a table, in the order in which they have been made. -/
abbrev Entries := List (String × Toml)

namespace Entries

/-- Replaces the value under a name that is there. -/
def replace (name : String) (value : Toml) (entries : Entries) : Entries :=
  entries.map fun entry => if entry.1 = name then (name, value) else entry

/-- Adds a value under a name that must be new. -/
def add? (name : String) (value : Toml) (entries : Entries) : Option Entries :=
  match entries.lookup name with
  | some _ => none
  | none => some (entries ++ [(name, value)])

/-- Changes the table at the end of a path, and makes the tables on the way that
are missing.  With `byKey` the path comes from a key with dots, and otherwise
from a header. -/
def change? {α : Type} (byKey : Bool) (f : TableOrigin → Entries → Option (α × Entries)) :
    (path : List String) → TableOrigin → Entries → Option (α × Entries)
  | [], origin, entries => f origin entries
  | name :: path, _, entries =>
    match entries.lookup name with
    | none => do
      let origin : TableOrigin := if byKey then .dottedKey else .parent
      let (result, inner) ← change? byKey f path origin []
      return (result, entries ++ [(name, .table origin inner)])
    | some (.table origin inner) =>
      if origin = .braces || (byKey && origin = .header) then none
      else do
        let (result, inner) ← change? byKey f path origin inner
        return (result, entries.replace name (.table origin inner))
    | some (.tables (last :: others)) => do
      let (result, last) ← change? byKey f path .header last
      return (result, entries.replace name (.tables (last :: others)))
    | some _ => none

/-- Sets the value of a key in the table that is being written.  A key without
dots cannot add to a table that keys with dots have made, nor the other way
round. -/
def set? (entries : Entries) (origin : TableOrigin) (path : List String) (name : String)
    (value : Toml) : Option Entries := do
  let insert (origin : TableOrigin) (inner : Entries) : Option (Unit × Entries) :=
    if (origin == .dottedKey) == path.isEmpty then none
    else (inner.add? name value).map ((), ·)
  let (_, changed) ← entries.change? true insert path origin
  return changed

end Entries

/-- A document that is being read. -/
structure Draft where
  /-- What is finished. -/
  root : Entries := []
  /-- Where the table that is being written belongs; the document itself has the
  empty path. -/
  path : List String := []
  /-- Whether that table is an element of a list of tables. -/
  isElement : Bool := false
  /-- What has been written of that table. -/
  current : Entries := []

namespace Draft

/-- Puts the table that is being written at its place. -/
def finish? (draft : Draft) : Option Entries :=
  match draft.path.getLast? with
  | none => some draft.current
  | some name => do
    let insert (_ : TableOrigin) (parent : Entries) : Option (Unit × Entries) :=
      if draft.isElement then
        match parent.lookup name with
        | some (.tables elements) =>
          some ((), parent.replace name (.tables (draft.current :: elements)))
        | _ => none
      else (parent.add? name (.table .header draft.current)).map ((), ·)
    let (_, root) ← draft.root.change? false insert draft.path.dropLast .header
    return root

/-- Starts the table with the given path.  A table that is there already can only
be one that the headers of its own tables have made. -/
def startTable? (draft : Draft) (path : List String) : Option Draft := do
  let name ← path.getLast?
  let finished ← draft.finish?
  let take (_ : TableOrigin) (parent : Entries) : Option (Entries × Entries) :=
    match parent.lookup name with
    | none => some ([], parent)
    | some (.table .parent inner) => some (inner, parent.filter (·.1 ≠ name))
    | some _ => none
  let (current, root) ← finished.change? false take path.dropLast .header
  return { root, path, isElement := false, current }

/-- Starts a further element of the list of tables with the given path. -/
def startElement? (draft : Draft) (path : List String) : Option Draft := do
  let name ← path.getLast?
  let finished ← draft.finish?
  let ready (_ : TableOrigin) (parent : Entries) : Option (Unit × Entries) :=
    match parent.lookup name with
    | none => some ((), parent ++ [(name, .tables [])])
    | some (.tables _) => some ((), parent)
    | some _ => none
  let (_, root) ← finished.change? false ready path.dropLast .header
  return { root, path, isElement := true, current := [] }

/-- Sets the value of a key, given as the names between its dots. -/
def setKey? (draft : Draft) (key : List String) (value : Toml) : Option Draft := do
  let name ← key.getLast?
  let current ← draft.current.set? .header key.dropLast name value
  return { draft with current }

end Draft

end SqlNotebook.Toml
