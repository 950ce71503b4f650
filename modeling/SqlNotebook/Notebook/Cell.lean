/-
SqlNotebook/Notebook/Cell.lean

Running the statements of a cell.

Each statement is expanded, relieved of its flags, and bound, and what is left is
sent, if anything is.  The cell ends with the first query whose rows are shown.
A statement that fails is recorded and reported, and a query without rows is
reported; the cell goes on behind both.  A broken macro ends it with an error.
-/
import SqlNotebook.Notebook.Response
import SqlNotebook.Notebook.Session
import SqlNotebook.Statement

namespace SqlNotebook

/-- What the database has answered to a statement. -/
inductive Answer
  | rows (table : ResultTable)
  | changed (count : UInt64)

/-- Has a statement described and run. -/
def Database.send (database : Database) (session : Connection) (sql : String) : Talk Answer := do
  let statement ← database.prepare session sql
  if statement.columns.isEmpty then return .changed (← database.execute session statement)
  else return .rows (← database.fetch session statement)

/-- What a cell has come to so far. -/
structure Progress where
  /-- The number of rows that its statements have changed. -/
  affected : UInt64 := 0
  outcome : Outcome := .completed 0
  notices : List Notice := []

namespace Progress

/-- Adds notices. -/
def report (progress : Progress) (notices : List Notice) : Progress :=
  { progress with notices := progress.notices ++ notices }

/-- Ends the cell; that it is completed is reported, unless it is to be quiet or
the last query has returned no rows. -/
def finish (progress : Progress) (quiet : Bool) : Response where
  outcome := progress.outcome
  notices :=
    match progress.outcome with
    | .completed _ =>
      if quiet then progress.notices else progress.notices ++ [.info "Command completed."]
    | _ => progress.notices

end Progress

/-- How a cell goes on behind a statement. -/
inductive CellStep
  | next (progress : Progress)
  /-- It ends here, with rows that are shown. -/
  | shown (response : Response)

namespace Action

/-- Takes the flags off the front of a text. -/
def takeFlags (text : String) : Action String := do
  let (rest, flags) := Flags.split text
  modify fun notebook => { notebook with flags := notebook.flags ++ flags }
  return rest

/-- Expands a text with the macros of the notebook. -/
def expand (text : String) : Action Macro.Expansion := do
  ofExcept ((← get).macros.expand text)

/-- What has been reported about a statement while it was read, and the SQL to
send, if there is any. -/
def readStatement (statement : String) : Action (List Notice × Option String) := do
  let expansion ← expand statement
  if expansion.exited then return (expansion.notices, none)
  else
    let text ← takeFlags expansion.text
    let sql := (← get).environment.bind text
    return (expansion.notices, if Text.isBlank sql then none else some sql)

/-- Takes the answer to a statement in. -/
def settle (progress : Progress) : Except Error Answer → Action CellStep
  | .ok (.changed count) => do
    let affected := progress.affected + count
    let unchanged := count = 0 && !(← get).has .quiet
    let progress := if unchanged then progress.report [.error "No rows found."] else progress
    return .next { progress with affected, outcome := .completed affected }
  | .ok (.rows table) => do
    let response ← present table
    match response.outcome with
    | .noRows => return .next { progress.report response.notices with outcome := .noRows }
    | _ => return .shown (response.after progress.notices)
  | .error error => do
    record error
    let quiet := (← get).has .quiet
    let progress := if quiet then progress else progress.report [.error error.text]
    return .next { progress with outcome := .completed progress.affected }

/-- Runs one statement. -/
def runStatement (database : Database) (session : Connection) (progress : Progress)
    (statement : String) : Action CellStep := do
  let (notices, sql) ← readStatement statement
  let progress := progress.report notices
  match sql with
  | none => return .next progress
  | some sql =>
    let echo := (← get).has .echo
    let progress := if echo then progress.report [.info sql] else progress
    settle progress (← attempt (ofTalk (database.send session sql)))

/-- Runs statements up to the first one whose rows are shown. -/
def runStatements (database : Database) (session : Connection) (progress : Progress) :
    List String → Action Response
  | [] => do return progress.finish ((← get).has .quiet)
  | statement :: rest => do
    match ← runStatement database session progress statement with
    | .next progress => runStatements database session progress rest
    | .shown response => return response

/-- Runs a cell. -/
def runCell (database : Database) (sql : String) : Action Response := do
  let session ← ensureConnected database
  let delimiter := if (← get).has .delimiter then '@' else ';'
  runStatements database session {} (Statement.split sql delimiter)

end Action

end SqlNotebook
