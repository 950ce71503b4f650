/-
SqlNotebook/Shell/Run.lean

A run of the shell, from how it has been called to what it ends with.  What it
finds around it, such as files, is given.
-/
import SqlNotebook.Shell.Invocation
import SqlNotebook.Shell.Session

namespace SqlNotebook.Shell

/-- What the shell finds around it. -/
structure Surroundings where
  /-- Where the settings are kept. -/
  store : SettingsStore := .nowhere
  /-- The text of a file, or why it cannot be read. -/
  fileText : String → Except String String
  /-- What happens at the prompt. -/
  events : List Event := []

/-- Why a file cannot be read that does not exist. -/
def missingFile : String :=
  "No such file or directory (os error 2)"

/-- What is shown if there is nothing to do. -/
def banner : Output :=
  Output.lines
    ["sqlcell: SQL cells for the terminal",
      "",
      "Usage: sqlcell <INSTRUCTION> [OPTIONS]",
      "",
      "Try: sqlcell --help"]

namespace Invocation

/-- Gives a variable of a notebook a value. -/
def assign (notebook : Notebook) (assignment : String) : Except String Notebook :=
  match Text.cutAt? '=' assignment with
  | some (name, value) =>
    .ok (notebook.setVariable (Text.trim name) (.ofArgument (Text.trim value)))
  | none => .error ("--var expects NAME=VALUE, got '" ++ assignment ++ "'")

/-- The notebook at the start.  If the settings cannot be read, they are those of
a new notebook, and what is kept is left as it is. -/
def openNotebook (invocation : Invocation) (store : SettingsStore) : Except String Notebook :=
  let notebook : Notebook :=
    { settings := store.load.toOption.getD {}
      store
      source := invocation.databaseUrl.map .url }
  invocation.assignments.foldlM assign notebook

/-- The session at the start. -/
def openSession (invocation : Invocation) (store : SettingsStore) : Except String Session :=
  (invocation.openNotebook store).map fun notebook => { notebook, format := invocation.format }

/-- The body of the cell, if there is one. -/
def body (invocation : Invocation) (fileText : String → Except String String) :
    Except String (Option String) :=
  match invocation.file with
  | none => .ok none
  | some path =>
    match fileText path with
    | .ok text => .ok (some text)
    | .error reason => .error ("reading " ++ path ++ "\n\nCaused by:\n    " ++ reason)

/-- The ending of a run that fails before anything is done. -/
def failure (message : String) (store : SettingsStore) : Ending :=
  { code := 1, output := Output.errorLine ("Error: " ++ message), store }

/-- Runs the instruction of a call. -/
def runInstruction (engine : Engine) (invocation : Invocation) (session : Session)
    (fileText : String → Except String String) : Ending :=
  let store := session.notebook.store
  match invocation.body fileText with
  | .error message => failure message store
  | .ok body =>
    let instruction := invocation.instruction.getD ""
    if instruction = "" && body.isNone then { output := banner, store }
    else runOnce engine session instruction body

/-- Does what a call asks for. -/
def runSession (engine : Engine) (invocation : Invocation) (session : Session)
    (around : Surroundings) : Ending :=
  let store := session.notebook.store
  match invocation.subcommand with
  | none => invocation.runInstruction engine session around.fileText
  | some .macros => { output := Output.lines session.notebook.macros.names, store }
  | some (.expand instruction) => { output := session.showExpansion instruction, store }
  | some .repl =>
    let (session, output) := Dialogue.run engine { session } around.events
    { output := greeting ++ output, store := session.notebook.store }

/-- Runs the shell. -/
def run (engine : Engine) (invocation : Invocation) (around : Surroundings) : Ending :=
  match invocation.openSession around.store with
  | .error message => failure message around.store
  | .ok session => invocation.runSession engine session around

end Invocation

end SqlNotebook.Shell
