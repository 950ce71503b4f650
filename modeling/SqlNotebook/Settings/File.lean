/-
SqlNotebook/Settings/File.lean

The settings file.  It is a TOML document with a line for each setting that has
a value.  Settings that a file does not mention have their first values, and
everything else in the file is passed over.
-/
import SqlNotebook.Error
import SqlNotebook.Settings.Basic
import SqlNotebook.Toml.Reader

namespace SqlNotebook.Settings

/-- A line of the file. -/
def line (key : Key) (value : String) : String :=
  key.name ++ " = " ++ value ++ "\n"

/-- The text of the file. -/
def toText (settings : Settings) : String :=
  line .maxRows (toString settings.maxRows) ++
    line .maxGrid (toString settings.maxGrid) ++
    line .display (Toml.quote settings.display.name) ++
    line .threads (toString settings.threads) ++
    (settings.databaseUrl.map fun url => line .databaseUrl (Toml.quote url)).getD ""

/-- Reads a setting that is an integer. -/
def readInteger (fallback : Int) : Option Toml → Option Int
  | none => some fallback
  | some (.integer value) => some value
  | some _ => none

/-- Whether a value has nothing in it. -/
def isEmptyValue : Toml → Bool
  | .array [] => true
  | .table _ [] => true
  | _ => false

/-- Reads the way in which tables are shown: its name, or a table whose only key
is the name and has nothing in it. -/
def readDisplay : Option Toml → Option DisplayMode
  | none => some .table
  | some (.text name) => DisplayMode.ofName? name
  | some (.table _ [(name, content)]) =>
    if isEmptyValue content then DisplayMode.ofName? name else none
  | some _ => none

/-- Reads the number of connections. -/
def readThreads (value : Option Toml) : Option Nat :=
  match readInteger 0 value with
  | some n => if 0 ≤ n then some n.toNat else none
  | none => none

/-- Reads where to connect to. -/
def readUrl : Option Toml → Option (Option String)
  | none => some none
  | some (.text url) => some (some url)
  | some _ => none

/-- The settings in a document. -/
def ofEntries? (entries : Toml.Entries) : Option Settings := do
  let value (key : Key) : Option Toml := entries.lookup key.name
  let initial : Settings := {}
  let maxRows ← readInteger initial.maxRows (value .maxRows)
  let maxGrid ← readInteger initial.maxGrid (value .maxGrid)
  let display ← readDisplay (value .display)
  let threads ← readThreads (value .threads)
  let databaseUrl ← readUrl (value .databaseUrl)
  return { maxRows, maxGrid, display, threads, databaseUrl }

/-- Reads the text of a file. -/
def ofText (text : String) : Except Error Settings :=
  match Toml.ofText? text >>= ofEntries? with
  | some settings => .ok settings
  | none => .error (.settingsFile "the file holds no settings")

/-- Reads a file that may be missing. -/
def ofFile : Option String → Except Error Settings
  | none => .ok {}
  | some text => ofText text

end SqlNotebook.Settings
