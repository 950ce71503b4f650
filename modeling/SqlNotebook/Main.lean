/-
SqlNotebook/Main.lean

The shell as a program.  Everything that it does is decided elsewhere; here are
the arguments, the environment, the files and the streams.  It reaches databases
by their URLs.
-/
import SqlNotebook.Database.Url
import SqlNotebook.Shell.Run

namespace SqlNotebook.Shell

/-- What runs the statements. -/
def urlEngine : Engine :=
  { database := ({} : Script).database }

/-- Prints each piece to its stream. -/
def print (output : Output) : IO Unit := do
  for piece in output do
    match piece with
    | .out text => IO.print text
    | .err text => IO.eprint text
  (← IO.getStdout).flush

/-- The text of a file, or nothing if it cannot be read. -/
def textOf? (path : String) : IO (Option String) := do
  try
    return some (← IO.FS.readFile path)
  catch _ =>
    return none

/-- The directory of the settings file. -/
def settingsFolder? : IO (Option String) := do
  match ← IO.getEnv "XDG_CONFIG_HOME", ← IO.getEnv "HOME" with
  | some folder, home =>
    if folder.startsWith "/" then return some (folder ++ "/sqlcell")
    else return home.map (· ++ "/.config/sqlcell")
  | none, home => return home.map (· ++ "/.config/sqlcell")

/-- The settings file in its directory. -/
def settingsPath (folder : String) : String :=
  folder ++ "/settings.toml"

/-- Where the settings are kept. -/
def openStore (folder : Option String) : IO SettingsStore := do
  match folder with
  | some folder => return .file (← textOf? (settingsPath folder))
  | none => return .nowhere

/-- Writes the settings file if its text has changed. -/
def saveStore (folder : Option String) (before after : SettingsStore) : IO Unit := do
  if before ≠ after then
    match folder, after with
    | some folder, .file (some text) =>
      IO.FS.createDirAll folder
      IO.FS.writeFile (settingsPath folder) text
    | _, _ => return

/-- Reads lines at the prompt until the session is over. -/
partial def converse (folder : Option String) (dialogue : Dialogue) : IO Unit := do
  print dialogue.prompt
  let line ← (← IO.getStdin).getLine
  unless line.isEmpty do
    let event := Event.ofInput ((Text.lines line).head?.getD "")
    let (goesOn, next, output) := dialogue.step urlEngine event
    saveStore folder dialogue.session.notebook.store next.session.notebook.store
    print output
    if goesOn then converse folder next

/-- Ends a run. -/
def conclude (folder : Option String) (before : SettingsStore) (ending : Ending) : IO UInt32 := do
  saveStore folder before ending.store
  print ending.output
  return ending.code.toUInt32

/-- Does what a call asks for. -/
def serveCall (invocation : Invocation) : IO UInt32 := do
  let folder ← settingsFolder?
  let store ← openStore folder
  match invocation.openSession store, invocation.subcommand with
  | .ok session, some .repl =>
    print greeting
    converse folder { session }
    return 0
  | _, _ =>
    let body ← invocation.file.mapM textOf?
    let fileText (_ : String) := body.join.elim (.error missingFile) Except.ok
    conclude folder store (invocation.run urlEngine { store, fileText })

end SqlNotebook.Shell

open SqlNotebook.Shell in
/-- Runs the shell with the arguments of the program. -/
def main (arguments : List String) : IO UInt32 := do
  match Invocation.ofArguments? arguments with
  | none =>
    print banner
    return 2
  | some invocation =>
    let url ← IO.getEnv "SQLCELL_DATABASE_URL"
    serveCall { invocation with databaseUrl := invocation.databaseUrl <|> url }
