/-
SqlNotebook/Settings/Options.lean

The words of an `OPTION` instruction.  They are pairs of a name and a value, and
are carried out from left to right; words that are no names of options are
passed over.  The settings are listed at the end; `LIST` lists them at once, `?`
explains the options instead, and both end the instruction, as does a name
without a value.
-/
import SqlNotebook.Settings.Basic

namespace SqlNotebook.Settings

/-- The option with the given name, in upper or lower case. -/
def Key.ofOption? (name : String) : Option Key :=
  match Text.upperAscii name with
  | "MAXROWS" => some .maxRows
  | "MAXGRID" => some .maxGrid
  | "DISPLAY" => some .display
  | "THREADS" => some .threads
  | _ => none

/-- One notice for each option. -/
def listing (settings : Settings) : List Notice :=
  [.info ("(MAXROWS) Maximum number of rows displayed: " ++ toString settings.maxRows),
    .info ("(MAXGRID) Maximum grid display size: " ++ toString settings.maxGrid),
    .info ("(DISPLAY) Use TABLE or JSON display format for output: " ++ settings.display.name),
    .info ("(THREADS) Maximum number of threads to use when running SQL: " ++
      toString settings.threads)]

/-- What the options mean. -/
def usage : List Notice :=
  [.info "OPTION MAXROWS n MAXGRID n DISPLAY TABLE|JSON THREADS n",
    .info "LIST      - List the current option settings",
    .info "MAXROWS n - The maximum number of rows displayed when returning results",
    .info "MAXGRID n - Maximum size of a grid window",
    .info "DISPLAY   - TABLE or JSON output",
    .info "THREADS n - Maximum number of parallel threads to use when running SQL"]

/-- What an `OPTION` instruction has done. -/
structure OptionsReport where
  settings : Settings
  notices : List Notice
  /-- Whether a setting has been given a value. -/
  changed : Bool
deriving DecidableEq, Repr

namespace OptionsReport

/-- Adds notices. -/
def report (r : OptionsReport) (notices : List Notice) : OptionsReport :=
  { r with notices := r.notices ++ notices }

/-- Adds the list of the settings. -/
def list (r : OptionsReport) : OptionsReport :=
  r.report r.settings.listing

/-- Changes a setting, or reports why it cannot be changed. -/
def change (r : OptionsReport) (key : Key) (value : String) : OptionsReport :=
  match r.settings.change key value with
  | .ok settings => { r with settings, changed := true }
  | .error fault => r.report [.error fault.message]

end OptionsReport

/-- Carries out the words of an `OPTION` instruction, after those that have led
to the given report. -/
def runOptions (r : OptionsReport) : List String → OptionsReport
  | [] => r.list
  | word :: rest =>
    if word.toList.head? = some '?' then { r with notices := usage }
    else if Text.upperAscii word = "LIST" then r.list
    else
      match Key.ofOption? word, rest with
      | none, rest => runOptions r rest
      | some key, [] =>
        r.report [.error ("No value provided for the " ++ Text.upper key.name ++ " option.")]
      | some key, value :: rest => runOptions (r.change key value) rest

/-- Carries out the words of an `OPTION` instruction. -/
def applyOptions (settings : Settings) (words : List String) : OptionsReport :=
  runOptions ⟨settings, [], false⟩ words

end SqlNotebook.Settings
