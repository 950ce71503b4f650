/-
SqlNotebook/Shell/Session.lean

A notebook at work in the shell: one instruction, or a session at the prompt.
-/
import SqlNotebook.Notebook.Run
import SqlNotebook.Shell.Reading
import SqlNotebook.Shell.Render

namespace SqlNotebook.Shell

/-- A notebook in the shell. -/
structure Session where
  notebook : Notebook
  /-- How tables are shown, in place of what the settings say. -/
  format : Option DisplayMode := none

namespace Session

/-- How tables are shown. -/
def display (session : Session) : DisplayMode :=
  session.format.getD session.notebook.settings.display

/-- Closes the connection.  An error is not reported. -/
def close (engine : Engine) (session : Session) : Session :=
  { session with notebook := (session.notebook.close engine).2 }

/-- Runs an instruction and shows what comes back, or hands its error to `report`. -/
def execute (engine : Engine) (session : Session) (report : Error → Output)
    (instruction : String) (body : Option String) : Session × Output :=
  let (outcome, notebook) := session.notebook.run engine instruction body
  let session := { session with notebook }
  match outcome with
  | .ok response => (session, render session.display response)
  | .error error => (session, report error)

/-- Shows what the macros make of an instruction. -/
def showExpansion (session : Session) (instruction : String) : Output :=
  renderExpansion (session.notebook.macros.expand instruction)

end Session

/-! ### One instruction -/

/-- What a run of the shell ends with. -/
structure Ending where
  /-- Zero, unless something has failed. -/
  code : Nat := 0
  output : Output
  /-- Where the settings are kept in the end. -/
  store : SettingsStore

/-- Runs one instruction and closes the connection.  It has failed if there is an
error, or if the status in the end has a negative code. -/
def runOnce (engine : Engine) (session : Session) (instruction : String)
    (body : Option String) : Ending :=
  let (outcome, notebook) := session.notebook.run engine instruction body
  let session := Session.close engine { session with notebook }
  let store := session.notebook.store
  match outcome with
  | .ok response =>
    { code := if session.notebook.status.code < 0 then 1 else 0
      output := render session.display response
      store }
  | .error error => { code := 1, output := Output.errorLine ("Error: " ++ error.text), store }

/-! ### A session at the prompt -/

/-- What is shown at the start of a session. -/
def greeting : Output :=
  Output.lines ["sqlcell REPL", "Type ? for instructions, .help for REPL commands.", ""]

/-- What is shown to explain the prompt. -/
def promptHelp : Output :=
  Output.lines
    ["sqlcell REPL Commands:",
      "  .exit    - Exit the REPL",
      "  .help    - Show this help",
      "  .macros  - List defined macros",
      "  .set     - Set a host variable: .set NAME VALUE",
      "  .clear   - Clear screen",
      "",
      "Cells:",
      "  end a line with \\ to continue it",
      "  %%define NAME   starts a cell; a line with %% ends it",
      ""]

/-- What clears the screen. -/
def clearing : Output :=
  [.out "\x1b[2J\x1b[1;1H"]

/-- How an error is shown at the prompt. -/
def reportError (error : Error) : Output :=
  Output.errorLine ("✗ " ++ error.text)

namespace Session

/-- Does what is asked for at the prompt. -/
def serve (engine : Engine) (session : Session) : Request → Session × Output
  | .execute instruction body => session.execute engine reportError instruction body
  | .setVariable name value =>
    ({ session with notebook := session.notebook.setVariable name (.ofArgument value) }, [])
  | .setNothing => (session, Output.errorLine "Usage: .set NAME VALUE")
  | .listMacros => (session, Output.line (Text.join " " session.notebook.macros.names))
  | .clearScreen => (session, clearing)
  | .help => (session, promptHelp)
  | .quit => (session, [])

end Session

/-- A session at the prompt. -/
structure Dialogue where
  session : Session
  reading : Reading := .start

namespace Dialogue

/-- The prompt for the next line. -/
def prompt (dialogue : Dialogue) : Output :=
  [.out dialogue.reading.prompt]

/-- What an event shows by itself. -/
def echo : Event → Output
  | .line _ => []
  | .interrupt => Output.line "^C"

/-- Takes in what happens at the prompt.  The first component says whether the
session goes on. -/
def step (engine : Engine) (dialogue : Dialogue) (event : Event) : Bool × Dialogue × Output :=
  match dialogue.reading.next event with
  | (reading, none) => (true, { dialogue with reading }, echo event)
  | (reading, some request) =>
    let (session, output) := dialogue.session.serve engine request
    (request ≠ .quit, ⟨session, reading⟩, echo event ++ output)

/-- Runs a session up to a request to quit, or to the end of what happens. -/
def run (engine : Engine) (dialogue : Dialogue) : List Event → Session × Output
  | [] => (dialogue.session.close engine, dialogue.prompt)
  | event :: rest =>
    match dialogue.step engine event with
    | (true, next, output) =>
      let (session, later) := next.run engine rest
      (session, dialogue.prompt ++ output ++ later)
    | (false, next, output) => (next.session.close engine, dialogue.prompt ++ output)

end Dialogue

end SqlNotebook.Shell
