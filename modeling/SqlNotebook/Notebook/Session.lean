/-
SqlNotebook/Notebook/Session.lean

The connection of a notebook and its settings file.

A notebook connects when it is told to, or when a statement needs it.  Where it
connects to is settled once: by the notebook's maker, by a `CONNECT` with a URL,
or by the URL in the settings; `CONNECT RESET` unsettles it.
-/
import SqlNotebook.Notebook.Basic

namespace SqlNotebook.Action

/-- Why a notebook that does not know where to connect to fails. -/
def noSource : Error :=
  .connection "A CONNECT statement must be issued before issuing SQL statements."

/-- Writes the settings to where they are kept. -/
def saveSettings : Action Unit := do
  let notebook ← get
  match notebook.store with
  | .nowhere => return
  | .file _ => set { notebook with store := .file (some notebook.settings.toText) }
  | .blocked => throw (.storage "the settings file cannot be written")

/-- Settles where connections lead. -/
def settleSource : Action Source := do
  let notebook ← get
  match notebook.source, notebook.settings.databaseUrl with
  | some source, _ => return source
  | none, some url =>
    set { notebook with source := some (.url url) }
    return .url url
  | none, none => throw noSource

/-- The open connection; opens one if there is none. -/
def ensureConnected (database : Database) : Action Connection := do
  match (← get).session with
  | some session => return session
  | none =>
    let source ← settleSource
    let session ← ofTalk (database.connect source)
    modify fun notebook => { notebook with session := some session }
    return session

/-- Closes the connection, if there is one.  It is gone even if the database
reports an error. -/
def disconnect (database : Database) : Action Unit := do
  match (← get).session with
  | none => return
  | some session =>
    modify fun notebook => { notebook with session := none }
    ofTalk (database.close session)

/-- Remembers a URL as where to connect to. -/
def remember (url : String) : Action Unit := do
  modify fun notebook =>
    { notebook with
      source := some (.url url)
      settings := { notebook.settings with databaseUrl := some url } }
  saveSettings

/-- Forgets where to connect to. -/
def forget : Action Unit := do
  modify fun notebook =>
    { notebook with
      source := none
      settings := { notebook.settings with databaseUrl := none } }
  saveSettings

/-- Connects anew, to the given URL if there is one. -/
def connect (database : Database) (url : Option String) : Action Unit := do
  match url with
  | some url => remember url
  | none => pure ()
  disconnect database
  let _ ← ensureConnected database

/-- Records an error as the status. -/
def record (error : Error) : Action Unit :=
  modify fun notebook => { notebook with status := .ofError error }

/-- Asks something of the open connection.  An error is recorded and reported.
Nothing happens if there is no connection. -/
def transact (request : Connection → Talk Unit) : Action (List Notice) := do
  match (← get).session with
  | none => return []
  | some session =>
    match ← attempt (ofTalk (request session)) with
    | .ok () => return []
    | .error error =>
      record error
      return [.error error.text]

end SqlNotebook.Action
