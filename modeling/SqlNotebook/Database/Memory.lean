/-
SqlNotebook/Database/Memory.lean

A database in memory.  It holds no tables and knows statements about
transactions only; a statement of another kind is refused at the first token that
does not fit.  How a call is answered depends on the calls about the same
connection before it.
-/
import SqlNotebook.Database.Basic
import SqlNotebook.Text.Quote
import SqlNotebook.Text.Upper

namespace SqlNotebook

/-- A statement about transactions. -/
inductive TransactionStatement
  | start
  | commit
  | rollback
deriving DecidableEq, Repr

namespace TransactionStatement

/-! ### Reading -/

/-- Whether a character can be part of a word. -/
def isWordChar (c : Char) : Bool :=
  c.isAlphanum || c = '_' || c = '$' || 0x80 ≤ c.toNat

/-- Whether a character stands between tokens. -/
def isSpace (c : Char) : Bool :=
  c = ' ' || c = '\t' || c = '\n' || c = '\x0c' || c = '\r'

/-- How many of the characters behind `first` belong to the same token. -/
def tokenTail (first : Char) (rest : List Char) : Nat :=
  if isWordChar first then (rest.takeWhile isWordChar).length
  else if isQuote first then (rest.takeWhile (· ≠ first)).length + 1
  else 0

/-- The tokens of a statement: words, quoted texts, and other characters one by
one. -/
def tokens : List Char → List (List Char)
  | [] => []
  | c :: rest =>
    if isSpace c then tokens rest
    else
      (c :: rest.take (tokenTail c rest)) :: tokens (rest.drop (tokenTail c rest))
termination_by s => s.length
decreasing_by all_goals simp; try omega

/-- Whether a token is the given keyword, which is in upper case. -/
def isKeyword (keyword : String) (token : List Char) : Bool :=
  Chars.upperAscii token = keyword.toList

/-- The statement that the tokens behind it bring to its end, or the token that
does not fit. -/
def close (statement : TransactionStatement) :
    List (List Char) → Except (List Char) TransactionStatement
  | [] => .ok statement
  | token :: rest =>
    if isKeyword "TRANSACTION" token then
      match rest with
      | [] => .ok statement
      | extra :: _ => .error extra
    else .error token

/-- Drops the word that says when a transaction takes its locks. -/
def dropMode : List (List Char) → List (List Char)
  | [] => []
  | token :: rest =>
    if ["DEFERRED", "IMMEDIATE", "EXCLUSIVE"].any (isKeyword · token) then rest
    else token :: rest

/-- The statement that the tokens make up, or the token that does not fit. -/
def ofTokens : List (List Char) → Except (List Char) TransactionStatement
  | [] => .error []
  | token :: rest =>
    if isKeyword "BEGIN" token then close start (dropMode rest)
    else if isKeyword "COMMIT" token || isKeyword "END" token then close commit rest
    else if isKeyword "ROLLBACK" token then close rollback rest
    else .error token

/-- The error with the given message. -/
def fault (message : String) : Error :=
  .database (some "1") none message

/-- Reads a statement. -/
def ofText (sql : String) : Except Error TransactionStatement :=
  match ofTokens (tokens sql.toList) with
  | .ok statement => .ok statement
  | .error token => .error (fault ("near \"" ++ String.ofList token ++ "\": syntax error"))

/-! ### Running -/

/-- Runs a statement.  The state says whether a transaction is active. -/
def run (active : Bool) : TransactionStatement → Except Error Bool
  | start =>
    if active then .error (fault "cannot start a transaction within a transaction") else .ok true
  | commit =>
    if active then .ok false else .error (fault "cannot commit - no transaction is active")
  | rollback =>
    if active then .ok false else .error (fault "cannot rollback - no transaction is active")

end TransactionStatement

/-- A connection to the database in memory. -/
structure MemoryConnection where
  /-- Whether every statement is committed by itself. -/
  autocommit : Bool := true
  /-- Whether a transaction is active. -/
  active : Bool := false
deriving DecidableEq, Repr

namespace MemoryConnection

/-- Runs a statement. -/
def run (connection : MemoryConnection) (statement : TransactionStatement) :
    Except Error MemoryConnection :=
  (statement.run connection.active).map fun active => { connection with active }

/-- Ends the active transaction and starts the next one, unless every statement is
committed by itself. -/
def turnOver (connection : MemoryConnection) (ending : TransactionStatement) :
    Except Error MemoryConnection :=
  if connection.autocommit then .ok connection
  else connection.run ending >>= fun between => between.run .start

/-- Has every statement committed by itself, or not. -/
def setAutocommit (connection : MemoryConnection) (on : Bool) : Except Error MemoryConnection :=
  if on = connection.autocommit then .ok connection
  else
    (connection.run (if on then .commit else .start)).map fun changed =>
      { changed with autocommit := on }

/-- Reads a statement and runs it. -/
def runText (connection : MemoryConnection) (sql : String) : Except Error MemoryConnection :=
  TransactionStatement.ofText sql >>= connection.run

/-- Answers a call, and says what becomes of the connection. -/
def answer (connection : MemoryConnection) :
    (call : Call) → Except Error (call.Reply × MemoryConnection)
  | .connect _ => .ok ((), {})
  | .prepare _ sql => (TransactionStatement.ofText sql).map fun _ => ([], connection)
  | .execute _ statement => (connection.runText statement.sql).map fun next => (0, next)
  | .fetch _ statement =>
    (connection.runText statement.sql).map fun next => (.ofColumns statement.columns, next)
  | .setAutocommit _ on => (connection.setAutocommit on).map fun next => ((), next)
  | .commit _ => (connection.turnOver .commit).map fun next => ((), next)
  | .rollback _ => (connection.turnOver .rollback).map fun next => ((), next)
  | .close _ => .ok ((), connection)

/-- What becomes of a connection by a call.  A call that fails changes nothing. -/
def after (connection : MemoryConnection) (call : Call) : MemoryConnection :=
  match connection.answer call with
  | .ok (_, next) => next
  | .error _ => connection

/-- A connection after the calls about it. -/
def ofHistory (history : History) (connection : Connection) : MemoryConnection :=
  (history.filter (·.connection = connection)).foldr (fun call state => state.after call) {}

/-- What the database in memory answers after the calls so far. -/
def reply (history : History) (call : Call) : Except Error call.Reply :=
  ((ofHistory history call.connection).answer call).map (·.1)

end MemoryConnection

end SqlNotebook
