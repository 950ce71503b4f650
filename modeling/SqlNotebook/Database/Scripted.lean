/-
SqlNotebook/Database/Scripted.lean

A database that answers from a script, for trying notebooks out.  The first rule
whose text occurs in a statement says how the statement is answered.
-/
import SqlNotebook.Database.Basic
import SqlNotebook.Instruction.CommandWord

namespace SqlNotebook

/-- The calls about a statement. -/
inductive StatementCall
  | prepare
  | execute
  | fetch
deriving DecidableEq, Repr

/-- How statements are answered in which `contains` occurs. -/
structure ScriptRule where
  contains : String
  columns : Option (List Column) := none
  rows : Option (List (List Cell)) := none
  affected : Option UInt64 := none
  /-- The call that fails, and how. -/
  failure : Option (StatementCall × Error) := none

/-- The calls that are about a connection and nothing else. -/
inductive ConnectionCall
  | commit
  | rollback
  | autocommit (on : Bool)
  | close
deriving DecidableEq, Repr

/-- A script. -/
structure Script where
  rules : List ScriptRule := []
  /-- The numbers of the connections that are refused. -/
  refused : List Nat := []
  /-- The calls about a connection that fail, and how. -/
  failures : List (ConnectionCall × Error) := []

namespace Script

/-- The rule for a statement. -/
def rule? (script : Script) (sql : String) : Option ScriptRule :=
  script.rules.find? fun rule => Text.contains sql rule.contains

/-- Fails if the rule for the statement says so. -/
def check (script : Script) (call : StatementCall) (sql : String) : Except Error Unit :=
  match (script.rule? sql).bind (·.failure) with
  | some (failing, error) => if failing = call then .error error else .ok ()
  | none => .ok ()

/-- Fails if the script says so. -/
def checkConnection (script : Script) (call : ConnectionCall) : Except Error Unit :=
  match script.failures.lookup call with
  | some error => .error error
  | none => .ok ()

/-- The columns of a statement without a rule for them: a query has one. -/
def defaultColumns (sql : String) : List Column :=
  match commandWord sql with
  | "SELECT" | "WITH" | "VALUES" => [⟨"SQL", "VARCHAR"⟩]
  | _ => []

/-- The columns of a statement. -/
def columns (script : Script) (sql : String) : List Column :=
  ((script.rule? sql).bind (·.columns)).getD (defaultColumns sql)

/-- The rows of a query; without a rule for them, one with the query itself. -/
def rows (script : Script) (sql : String) : List (List Cell) :=
  ((script.rule? sql).bind (·.rows)).getD [[.text sql]]

/-- What the script answers to a call. -/
def reply (script : Script) : (call : Call) → Except Error call.Reply
  | .connect c =>
    if script.refused.contains c.number then
      .error (.connection ("connection " ++ toString c.number ++ " refused"))
    else .ok ()
  | .prepare _ sql => do
    script.check .prepare sql
    return script.columns sql
  | .execute _ statement => do
    script.check .execute statement.sql
    return ((script.rule? statement.sql).bind (·.affected)).getD 1
  | .fetch _ statement => do
    script.check .fetch statement.sql
    return (ResultTable.ofColumns statement.columns).pushAll (script.rows statement.sql)
  | .setAutocommit _ on => script.checkConnection (.autocommit on)
  | .commit _ => script.checkConnection .commit
  | .rollback _ => script.checkConnection .rollback
  | .close _ => script.checkConnection .close

end Script

end SqlNotebook
