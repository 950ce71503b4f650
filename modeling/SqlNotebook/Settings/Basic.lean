/-
SqlNotebook/Settings/Basic.lean

The settings of a notebook, and how single ones are read and changed.
-/
import SqlNotebook.Notice
import SqlNotebook.Text.Numeral
import SqlNotebook.Text.Upper

namespace SqlNotebook

/-- How tables are shown. -/
inductive DisplayMode
  | table
  | json
deriving DecidableEq, Repr

namespace DisplayMode

/-- The name of a mode. -/
def name : DisplayMode → String
  | table => "TABLE"
  | json => "JSON"

/-- The mode with exactly the given name. -/
def ofName? : String → Option DisplayMode
  | "TABLE" => some .table
  | "JSON" => some .json
  | _ => none

end DisplayMode

/-- The settings of a notebook. -/
structure Settings where
  /-- The number of rows that are shown; all of them if it is negative. -/
  maxRows : Int := 10
  /-- The size of a grid. -/
  maxGrid : Int := 5
  display : DisplayMode := .table
  /-- The number of connections that a fan-out may use; below two it uses the
  connection of the notebook. -/
  threads : Nat := 0
  /-- Where to connect to. -/
  databaseUrl : Option String := none
deriving DecidableEq, Repr

namespace Settings

/-- The greatest number of rows that can be asked for. -/
def maxRowsLimit : Int := 100

/-- The least size of a grid. -/
def minGrid : Int := 5

/-- The greatest number of connections that can be asked for. -/
def maxThreads : Int := 12

/-- Why a setting is not changed. -/
inductive Fault
  /-- The value does not suit the setting, whose name is given in upper case. -/
  | invalid (name : String)
  /-- There is no setting with the name, which is given in lower case. -/
  | unknown (name : String)
deriving DecidableEq, Repr

/-- What is reported about a fault. -/
def Fault.message : Fault → String
  | .invalid name => "Invalid " ++ name ++ " value provided."
  | .unknown name => "Unknown option " ++ name

/-- A setting that has a name. -/
inductive Key
  | maxRows
  | maxGrid
  | display
  | threads
  | databaseUrl
deriving DecidableEq, Repr

namespace Key

/-- The name of a setting. -/
def name : Key → String
  | maxRows => "maxrows"
  | maxGrid => "maxgrid"
  | display => "display"
  | threads => "threads"
  | databaseUrl => "database_url"

/-- The setting with the given name, in upper or lower case. -/
def ofName? (name : String) : Option Key :=
  match Text.lowerAscii name with
  | "maxrows" => some .maxRows
  | "maxgrid" => some .maxGrid
  | "display" => some .display
  | "threads" => some .threads
  | "database_url" => some .databaseUrl
  | _ => none

end Key

/-- The text of a setting; nothing if it has no value. -/
def valueText (settings : Settings) : Key → Option String
  | .maxRows => some (toString settings.maxRows)
  | .maxGrid => some (toString settings.maxGrid)
  | .display => some settings.display.name
  | .threads => some (toString settings.threads)
  | .databaseUrl => settings.databaseUrl

/-- The text of the setting with the given name. -/
def get? (settings : Settings) (name : String) : Option String :=
  (Key.ofName? name).bind settings.valueText

/-- The number of rows for a request: all that are allowed, if it is not positive
or too great. -/
def clampRows (n : Int) : Int :=
  if n ≤ 0 || maxRowsLimit < n then maxRowsLimit else n

/-- Changes a setting to the value that a text stands for, brought into range. -/
def change (settings : Settings) (key : Key) (value : String) : Except Fault Settings :=
  let invalid : Fault := .invalid (Text.upper key.name)
  match key with
  | .maxRows =>
    match Numeral.integer? value with
    | some n => .ok { settings with maxRows := clampRows n }
    | none => .error invalid
  | .maxGrid =>
    match Numeral.integer? value with
    | some n => .ok { settings with maxGrid := max n minGrid }
    | none => .error invalid
  | .display =>
    match DisplayMode.ofName? (Text.upperAscii value) with
    | some mode => .ok { settings with display := mode }
    | none => .error invalid
  | .threads =>
    match Numeral.integer? value with
    | some n => .ok { settings with threads := (min n maxThreads).toNat }
    | none => .error invalid
  | .databaseUrl => .ok { settings with databaseUrl := some value }

/-- Changes the setting with the given name. -/
def set (settings : Settings) (name value : String) : Except Fault Settings :=
  match Key.ofName? name with
  | some key => settings.change key value
  | none => .error (.unknown (Text.lowerAscii name))

/-- The number of rows to show out of `size`. -/
def visibleRows (settings : Settings) (size : Nat) (all : Bool) : Nat :=
  if all || settings.maxRows < 0 then size else min size settings.maxRows.toNat

end Settings

end SqlNotebook
