/-
SqlNotebook/Shell/Render.lean

How the shell shows what comes back from a notebook.  Notices come first; those
that report something wrong go to the errors.
-/
import SqlNotebook.Notebook.Response
import SqlNotebook.Shell.Grid
import SqlNotebook.Shell.Output

namespace SqlNotebook.Shell

/-- What the instructions are. -/
def helpLines : List String :=
  ["sqlcell runs SQL statements and macros.",
    "",
    "  [flags] SQL statements separated by ;      run statements",
    "  define NAME  (cell body)                   define a macro",
    "  OPTION [LIST | ? | MAXROWS n | MAXGRID n | DISPLAY TABLE|JSON | THREADS n]",
    "  CONNECT [TO] url | CONNECT CLOSE | CONNECT RESET",
    "  COMMIT | ROLLBACK | AUTOCOMMIT ON|OFF",
    "  USING name SELECT ... :name ...            run the query once per list element",
    "",
    "Flags:",
    "  -a  show all rows          -e  echo the SQL",
    "  -q  quiet                  -j  first column as JSON",
    "  -r  raw rows               -d  use @ as the statement delimiter"]

/-- A notice. -/
def renderNotice : Notice → Output
  | .info message => Output.line message
  | .error message => Output.errorLine message

/-- The first rows of a table, and how many there are. -/
def renderTable (table : ResultTable) (visible : Nat) : Output :=
  let rows := (table.rows.take visible).map (·.map Cell.display)
  let hidden := toString (table.size - visible)
  Output.lines (Grid.lines (table.columns.map (·.name)) rows) ++
    Output.line "" ++
    (if visible < table.size then
      Output.line ("… " ++ hidden ++ " more row(s), use -a to show all")
    else []) ++
    Output.line (toString table.size ++ " row(s) returned")

/-- An outcome.  The display mode matters for tables only. -/
def renderOutcome (display : DisplayMode) : Outcome → Output
  | .table table visible =>
    match display with
    | .table => renderTable table visible
    | .json => Output.line (Json.array (table.records.take visible)).pretty
  | .documents documents => Output.line (Json.array documents).pretty
  | .raw rows => Output.lines (rows.map fun row => (Json.array row).render)
  | .defined name => Output.line ("✓ Macro " ++ name ++ " defined")
  | .connected => Output.line "✓ Connected"
  | .disconnected => Output.line "Disconnected"
  | .help => Output.lines helpLines
  | .noRows | .completed _ | .options | .nothing => []

/-- A response. -/
def render (display : DisplayMode) (response : Response) : Output :=
  response.notices.flatMap renderNotice ++ renderOutcome display response.outcome

/-- What a macro makes of an instruction. -/
def renderExpansion : Except Error Macro.Expansion → Output
  | .error error => Output.errorLine ("Macro Error: " ++ error.text)
  | .ok expansion =>
    expansion.notices.flatMap renderNotice ++
      (if expansion.expanded then [] else Output.line "(not a macro)") ++
      (if expansion.flags.isEmpty then []
      else Output.line ("Flags: " ++ Text.join " " expansion.flags)) ++
      (if expansion.text = "" then [] else Output.line expansion.text)

end SqlNotebook.Shell
