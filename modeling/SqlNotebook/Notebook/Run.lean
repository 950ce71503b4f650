/-
SqlNotebook/Notebook/Run.lean

Running an instruction, with or without a cell body.

    flags → macros → flags → kind of instruction
      → DEFINE, OPTION, CONNECT, COMMIT, …
      → USING name SELECT …                  a fan-out
      → SQL, or the body if there is none    the statements of a cell

A body without anything in it counts as none.
-/
import SqlNotebook.FanOut.Run
import SqlNotebook.Instruction.Basic
import SqlNotebook.Notebook.Cell
import SqlNotebook.Settings.Options

namespace SqlNotebook

namespace Notebook

/-- The notebook at the start of an instruction: no flags, and nothing to report. -/
def begin (notebook : Notebook) : Notebook :=
  { notebook with flags := [], status := {} }

/-- The fan-out of a query over the list variable `name`.  The other references
in the query are bound at once. -/
def fanOut? (notebook : Notebook) (name query : String) : Except Error FanOut.Request :=
  match notebook.hostVariables.get? name with
  | none => .error (FanOut.Rejection.unknownVariable name).toError
  | some value =>
    .ok
      { sql := (notebook.environment.without name).bind query
        name
        value
        workers := notebook.settings.threads }

end Notebook

namespace Action

/-- Runs a query for every item of the list variable `name`. -/
def runUsing (engine : Engine) (name query : String) : Action Response := do
  let session ← ensureConnected engine.database
  let source ← settleSource
  let request ← ofExcept ((← get).fanOut? name query)
  match ← attempt (ofTalk (FanOut.run engine session source request)) with
  | .error error =>
    record error
    throw error
  | .ok report =>
    let echoed := if (← get).has .echo then report.issued.map .info else []
    return (← present report.table).after echoed

/-- Defines a macro.  `size` is the length of the instruction in bytes. -/
def define (name : String) (body : Option String) (size : Nat) : Action Response := do
  match body with
  | none => throw ((Instruction.Fault.missingBody name).toError size)
  | some body =>
    modify fun notebook => notebook.define name body
    return { outcome := .defined name }

/-- Changes options.  The settings are saved if one has been given a value. -/
def setOptions (words : List String) : Action Response := do
  let report := (← get).settings.applyOptions words
  modify fun notebook => { notebook with settings := report.settings }
  if report.changed then saveSettings
  return { outcome := .options, notices := report.notices }

/-- Carries out an instruction; `text` is how it was entered. -/
def perform (engine : Engine) (text : String) (body : Option String) :
    Instruction → Action Response
  | .define name => define name body text.utf8ByteSize
  | .options words => setOptions words
  | .connect url => do
    connect engine.database url
    return { outcome := .connected }
  | .disconnect unsettle => do
    disconnect engine.database
    if unsettle then forget
    return { outcome := .disconnected }
  | .commit => do
    return { outcome := .nothing, notices := ← transact engine.database.commit }
  | .rollback => do
    return { outcome := .nothing, notices := ← transact engine.database.rollback }
  | .autocommit on => do
    return { outcome := .nothing, notices := ← transact (engine.database.setAutocommit on) }
  | .using name query => runUsing engine name query
  | .help => return { outcome := .help }
  | .sql sql => runCell engine.database (if sql = "" then body.getD "" else sql)

/-- Carries out an instruction whose macros have been expanded and whose flags
have been taken off. -/
def answer (engine : Engine) (text : String) (body : Option String) : Action Response := do
  if text = "?" || (← get).has .help then return { outcome := .help }
  else if text = "" && body.isNone then return { outcome := .nothing }
  else perform engine text body (← ofExcept (Instruction.ofText text))

/-- Runs an instruction as it has been entered. -/
def enter (engine : Engine) (line : String) (body : Option String) : Action Response := do
  modify Notebook.begin
  let text ← takeFlags (Text.trim (Text.foldNewlines line))
  let expansion ← expand text
  if expansion.exited then return { outcome := .nothing, notices := expansion.notices }
  else
    let text ← takeFlags expansion.text
    let response ← answer engine text (body.filter (!Text.isBlank ·))
    return response.after expansion.notices

end Action

namespace Notebook

/-- Runs an instruction on a notebook. -/
def run (engine : Engine) (notebook : Notebook) (line : String) (body : Option String := none) :
    Except Error Response × Notebook :=
  (Action.enter engine line body).run notebook

/-- Closes the connection of a notebook. -/
def close (engine : Engine) (notebook : Notebook) : Except Error Unit × Notebook :=
  (Action.disconnect engine.database).run notebook

end Notebook

end SqlNotebook
