/-
SqlNotebook/FanOut/Run.lean

Running a query once for every item of a list.

The database is asked for the columns of the query first, with a sample item.
With fewer than two workers the queries then run one after the other on the
connection of the notebook; otherwise they are jobs with connections of their
own, as many at a time as there are workers.  Either all of them succeed, and
the tables are put together and labelled anew, or the fan-out fails.
-/
import SqlNotebook.FanOut.Fleet
import SqlNotebook.FanOut.Request

namespace SqlNotebook

/-- What runs the queries of a notebook: a database, and the order in which jobs
that run at the same time take their turns.  Jobs that have not come to their
end in that order are then run one after the other. -/
structure Engine where
  database : Database
  order : (jobs : Nat) → List Nat := fun _ => []

namespace FanOut

/-- The least number of workers for which jobs have connections of their own. -/
def minWorkers : Nat := 2

/-- The greatest number of connections that jobs have at the same time. -/
def maxWorkers : Nat := 12

/-- Brings the tables of all items together. -/
def merge (tables : List ResultTable) (issued : List String) : Report :=
  ⟨(ResultTable.concat tables).resetIndex, issued.length, issued⟩

/-- Runs queries one after the other on one connection. -/
def runSerial (database : Database) (session : Connection) : List String → Talk (List ResultTable)
  | [] => return []
  | sql :: rest => do
    let statement ← database.prepare session sql
    let table ← database.fetch session statement
    let tables ← runSerial database session rest
    return table :: tables

/-- The error of a fan-out whose first failure is the given one. -/
def partitionError : Error → Error
  | .partition message => .partition message
  | error => .partition error.text

/-- What a fan-out comes to when all its jobs have come to their end. -/
def Fleet.result (fleet : Fleet) : Except Error Report :=
  match fleet.failure with
  | some error => .error (partitionError error)
  | none =>
    .ok ⟨(ResultTable.concat fleet.tables).resetIndex, fleet.jobs.length, fleet.issued⟩

/-- The order in which the jobs of an engine take their turns.  After the order
of the engine, the first round ends every job that has a place, and the second
one all others. -/
def schedule (engine : Engine) (jobs : Nat) : List Nat :=
  engine.order jobs ++ Fleet.inOrder jobs ++ Fleet.inOrder jobs

/-- Runs queries as jobs with connections of their own. -/
def runParallel (engine : Engine) (source : Source) (places : Nat) (queries : List String) :
    Talk Report :=
  ExceptT.mk fun history =>
    let fleet := (Fleet.start queries history).turns engine.database source places
      (schedule engine queries.length)
    (fleet.result, fleet.history)

/-- Checks a request, also with the database. -/
def validate (database : Database) (session : Connection) (request : Request) : Talk Plan := do
  match request.plan with
  | .error rejection => throw rejection.toError
  | .ok plan =>
    let statement ← database.prepare session plan.sampleSql
    if statement.columns.isEmpty then throw Rejection.noAnswerSet.toError
    return plan

/-- Runs a request. -/
def run (engine : Engine) (session : Connection) (source : Source) (request : Request) :
    Talk Report := do
  let plan ← validate engine.database session request
  let queries := plan.queries request.name
  if request.workers < minWorkers then
    let tables ← runSerial engine.database session queries
    return merge tables queries
  else
    runParallel engine source (min request.workers maxWorkers) queries

end FanOut

end SqlNotebook
