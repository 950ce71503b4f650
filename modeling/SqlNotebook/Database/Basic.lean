/-
SqlNotebook/Database/Basic.lean

Databases, as a notebook sees them: something that answers calls.

What a database answers may depend on everything that it has been asked before,
so a database is a function of the calls so far and the call at hand.  A
conversation with it (`Talk`) extends the list of the calls, and may fail.
-/
import SqlNotebook.Error
import SqlNotebook.ResultTable.Basic

namespace SqlNotebook

/-- Where a connection leads. -/
inductive Source
  /-- To the database that the notebook has been given. -/
  | given
  | url (text : String)
deriving DecidableEq, Repr

/-- A connection.  The connections to one source are numbered from one, in the
order in which they are asked for. -/
structure Connection where
  source : Source
  number : Nat
deriving DecidableEq, Repr

/-- A statement that the database has described; it has no columns if it
returns no rows. -/
structure Prepared where
  sql : String
  columns : List Column
deriving DecidableEq, Repr

/-- What a database can be asked to do. -/
inductive Call
  | connect (connection : Connection)
  | prepare (connection : Connection) (sql : String)
  | execute (connection : Connection) (statement : Prepared)
  | fetch (connection : Connection) (statement : Prepared)
  | setAutocommit (connection : Connection) (on : Bool)
  | commit (connection : Connection)
  | rollback (connection : Connection)
  | close (connection : Connection)
deriving DecidableEq, Repr

namespace Call

/-- The connection that a call is about. -/
def connection : Call → Connection
  | connect c => c
  | prepare c _ => c
  | execute c _ => c
  | fetch c _ => c
  | setAutocommit c _ => c
  | commit c => c
  | rollback c => c
  | close c => c

/-- Whether a call opens a connection to the given source. -/
def opens (source : Source) : Call → Bool
  | connect c => c.source = source
  | _ => false

/-- What a call that does not fail returns: the columns of a statement, the
number of rows that it has changed, or the rows that it returns. -/
abbrev Reply : Call → Type
  | prepare .. => List Column
  | execute .. => UInt64
  | fetch .. => ResultTable
  | connect _ => Unit
  | setAutocommit .. => Unit
  | commit _ => Unit
  | rollback _ => Unit
  | close _ => Unit

end Call

/-- The calls so far, the last one first. -/
abbrev History := List Call

/-- The connection that is asked for next. -/
def Connection.next (source : Source) (history : History) : Connection :=
  ⟨source, history.countP (Call.opens source) + 1⟩

/-- A database, by what it answers after the calls so far. -/
structure Database where
  reply : (history : History) → (call : Call) → Except Error call.Reply

/-- A conversation with a database. -/
abbrev Talk (α : Type) := ExceptT Error (StateM History) α

namespace Talk

variable {α β : Type}

theorem run_pure (a : α) (history : History) :
    (pure a : Talk α).run history = (.ok a, history) := rfl

theorem run_get (history : History) :
    (get : Talk History).run history = (.ok history, history) := rfl

theorem run_bind (talk : Talk α) (next : α → Talk β) (history : History) :
    (talk >>= next).run history =
      match talk.run history with
      | (.ok a, later) => (next a).run later
      | (.error error, later) => (.error error, later) := by
  rw [ExceptT.run_bind]
  change StateT.bind talk.run _ history = _
  rw [StateT.bind]
  rcases talk.run history with ⟨outcome | a, later⟩ <;> rfl

end Talk

namespace Database

/-- Makes a call. -/
def ask (database : Database) (call : Call) : Talk call.Reply :=
  ExceptT.mk fun history => (database.reply history call, call :: history)

/-- Opens a connection. -/
def connect (database : Database) (source : Source) : Talk Connection := do
  let connection := Connection.next source (← get)
  database.ask (.connect connection)
  return connection

/-- Has a statement described. -/
def prepare (database : Database) (connection : Connection) (sql : String) : Talk Prepared := do
  let columns ← database.ask (.prepare connection sql)
  return ⟨sql, columns⟩

/-- Has a statement run that returns no rows, and counts the rows that it changes. -/
def execute (database : Database) (connection : Connection) (statement : Prepared) :
    Talk UInt64 :=
  database.ask (.execute connection statement)

/-- Has a query run. -/
def fetch (database : Database) (connection : Connection) (statement : Prepared) :
    Talk ResultTable :=
  database.ask (.fetch connection statement)

/-- Has every statement committed by itself, or not. -/
def setAutocommit (database : Database) (on : Bool) (connection : Connection) : Talk Unit :=
  database.ask (.setAutocommit connection on)

/-- Commits what has been done. -/
def commit (database : Database) (connection : Connection) : Talk Unit :=
  database.ask (.commit connection)

/-- Takes back what has not been committed. -/
def rollback (database : Database) (connection : Connection) : Talk Unit :=
  database.ask (.rollback connection)

/-- Closes a connection. -/
def close (database : Database) (connection : Connection) : Talk Unit :=
  database.ask (.close connection)

theorem run_ask (database : Database) (call : Call) (history : History) :
    (database.ask call).run history = (database.reply history call, call :: history) := rfl

theorem run_connect (database : Database) (source : Source) (history : History) :
    (database.connect source).run history =
      ((database.reply history (.connect (.next source history))).map
          fun _ => Connection.next source history,
        .connect (.next source history) :: history) := by
  rw [connect, Talk.run_bind, Talk.run_get]
  dsimp only
  rw [Talk.run_bind, run_ask]
  rcases database.reply history (.connect (.next source history)) with error | - <;> rfl

theorem run_prepare (database : Database) (connection : Connection) (sql : String)
    (history : History) :
    (database.prepare connection sql).run history =
      ((database.reply history (.prepare connection sql)).map fun columns => ⟨sql, columns⟩,
        .prepare connection sql :: history) := by
  rw [prepare, Talk.run_bind, run_ask]
  rcases database.reply history (.prepare connection sql) with error | columns <;> rfl

end Database

end SqlNotebook
