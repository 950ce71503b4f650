/-
SqlNotebook/FanOut/Fleet.lean

The jobs of a fan-out, which take turns in any order.

Each job has one query and a connection of its own.  It waits for one of the
places that there are, connects, has the query described and run, closes the
connection, gives the place back and hands its table over.  The first failure is
kept and calls the fan-out off: before it connects, before it sends its query and
before it has the query run, a job looks whether that has happened, and if so it
stops there.

    waiting → admitted → cleared → connected → sending → issued → prepared → ready
            → closing → leaving → left → done

A failure takes a job from `cleared` or `closing` through `failed` and `recorded`
to `leaving`.  A turn of a job is one step of this; a step makes at most one call,
and looks at or changes one thing that the jobs share.
-/
import SqlNotebook.Database.Basic

namespace SqlNotebook.FanOut

/-- What a job has brought about: a failure, a table, or nothing, if it has
stopped because the fan-out was called off. -/
abbrev JobOutcome := Except Error (Option ResultTable)

/-- How far a job has come. -/
inductive Stage
  /-- It has no place yet. -/
  | waiting
  /-- It has a place. -/
  | admitted
  /-- It is going to connect. -/
  | cleared
  | connected (connection : Connection)
  /-- It is going to say which query it sends. -/
  | sending (connection : Connection)
  /-- It has said which query it sends. -/
  | issued (connection : Connection)
  | prepared (connection : Connection) (statement : Prepared)
  /-- It is going to have the query run. -/
  | ready (connection : Connection) (statement : Prepared)
  /-- It is going to close its connection. -/
  | closing (connection : Connection) (outcome : JobOutcome)
  /-- It has failed, which nobody knows yet. -/
  | failed (error : Error)
  /-- Its failure is known, and it is going to call the fan-out off. -/
  | recorded
  /-- It is going to give its place back. -/
  | leaving (table : Option ResultTable)
  /-- It has given its place back. -/
  | left (table : Option ResultTable)
  /-- It has handed over what it has. -/
  | done

namespace Stage

/-- Whether a job at this stage has a place. -/
def isRunning : Stage → Bool
  | waiting => false
  | left _ => false
  | done => false
  | _ => true

/-- Whether a job has come to its end. -/
def isDone : Stage → Bool
  | done => true
  | _ => false

/-- Where a job goes behind its connection. -/
def ofOutcome : JobOutcome → Stage
  | .ok table => leaving table
  | .error error => failed error

end Stage

/-- A job. -/
structure Job where
  sql : String
  stage : Stage

/-- All jobs, and what they share. -/
structure Fleet where
  jobs : List Job
  /-- The calls to the database so far, the last one first. -/
  history : History
  /-- The first failure. -/
  failure : Option Error
  /-- Whether the fan-out has been called off. -/
  cancelled : Bool
  /-- The queries that have been sent, in order. -/
  issued : List String
  /-- The tables of the jobs that have brought one, in the order in which they
  have come to their end. -/
  tables : List ResultTable

namespace Fleet

/-- The jobs for the given queries, none of which has begun. -/
def start (queries : List String) (history : History) : Fleet where
  jobs := queries.map fun sql => ⟨sql, .waiting⟩
  history := history
  failure := none
  cancelled := false
  issued := []
  tables := []

/-- The number of places that are taken. -/
def running (fleet : Fleet) : Nat :=
  fleet.jobs.countP (·.stage.isRunning)

/-- Whether all jobs have come to their end. -/
def isDone (fleet : Fleet) : Bool :=
  fleet.jobs.all (·.stage.isDone)

/-- Brings a conversation with the database in. -/
def talk {α : Type} (fleet : Fleet) (conversation : Talk α) : Except Error α × Fleet :=
  let (reply, history) := conversation.run fleet.history
  (reply, { fleet with history })

/-- One step of a job: the stage that it comes to, and what changes for all. -/
def advance (database : Database) (source : Source) (places : Nat) (fleet : Fleet) (job : Job) :
    Stage × Fleet :=
  match job.stage with
  | .waiting => (if fleet.running < places then .admitted else .waiting, fleet)
  | .admitted => (if fleet.cancelled then .leaving none else .cleared, fleet)
  | .cleared =>
    match fleet.talk (database.connect source) with
    | (.ok connection, fleet) => (.connected connection, fleet)
    | (.error error, fleet) => (.failed error, fleet)
  | .connected connection =>
    (if fleet.cancelled then .closing connection (.ok none) else .sending connection, fleet)
  | .sending connection => (.issued connection, { fleet with issued := fleet.issued ++ [job.sql] })
  | .issued connection =>
    match fleet.talk (database.prepare connection job.sql) with
    | (.ok statement, fleet) => (.prepared connection statement, fleet)
    | (.error error, fleet) => (.closing connection (.error error), fleet)
  | .prepared connection statement =>
    (if fleet.cancelled then .closing connection (.ok none) else .ready connection statement, fleet)
  | .ready connection statement =>
    match fleet.talk (database.fetch connection statement) with
    | (.ok table, fleet) => (.closing connection (.ok (some table)), fleet)
    | (.error error, fleet) => (.closing connection (.error error), fleet)
  | .closing connection outcome =>
    (.ofOutcome outcome, (fleet.talk (database.close connection)).2)
  | .failed error => (.recorded, { fleet with failure := fleet.failure.or (some error) })
  | .recorded => (.leaving none, { fleet with cancelled := true })
  | .leaving table => (.left table, fleet)
  | .left table => (.done, { fleet with tables := fleet.tables ++ table.toList })
  | .done => (.done, fleet)

/-- The turn of the job with the given number. -/
def turn (database : Database) (source : Source) (places : Nat) (fleet : Fleet) (i : Nat) :
    Fleet :=
  match fleet.jobs[i]? with
  | none => fleet
  | some job =>
    let (stage, fleet) := fleet.advance database source places job
    { fleet with jobs := fleet.jobs.set i { job with stage } }

/-- Turns in the given order. -/
def turns (database : Database) (source : Source) (places : Nat) (fleet : Fleet)
    (order : List Nat) : Fleet :=
  order.foldl (turn database source places) fleet

/-- The number of turns that a job needs if it never waits. -/
def turnsOfJob : Nat := 13

/-- The order in which one job after the other takes all of its turns. -/
def inOrder (jobs : Nat) : List Nat :=
  (List.range jobs).flatMap (List.replicate turnsOfJob)

end Fleet

end SqlNotebook.FanOut
