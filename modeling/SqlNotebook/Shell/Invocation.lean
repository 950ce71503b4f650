/-
SqlNotebook/Shell/Invocation.lean

How the shell is called.

    [OPTION …] [INSTRUCTION]
    [OPTION …] repl | macros | expand INSTRUCTION

Options have a value, which may follow as the next argument or, behind a long
name, after `=`.  An argument that is no option is the instruction, also if it
starts with a minus sign; so is the one behind `--`.
-/
import SqlNotebook.Settings.Basic
import SqlNotebook.Text.Blank

namespace SqlNotebook.Shell

/-- What the shell can do besides running an instruction. -/
inductive Subcommand
  | repl
  | macros
  | expand (instruction : String)
deriving DecidableEq, Repr

/-- A call of the shell. -/
structure Invocation where
  instruction : Option String := none
  /-- The file with the body of the cell. -/
  file : Option String := none
  /-- The host variables, each as its name, `=`, and its value. -/
  assignments : List String := []
  format : Option DisplayMode := none
  databaseUrl : Option String := none
  subcommand : Option Subcommand := none
deriving DecidableEq, Repr

namespace Invocation

/-- The options. -/
inductive Key
  | file
  | variable
  | format
  | databaseUrl
deriving DecidableEq, Repr

/-- The option with the given name. -/
def Key.ofName? : String → Option Key
  | "--file" | "-f" => some .file
  | "--var" => some .variable
  | "--format" => some .format
  | "--database-url" => some .databaseUrl
  | _ => none

/-- An option with its value in one argument. -/
def attached? (argument : String) : Option (Key × String) := do
  let (name, value) ← Text.cutAt? '=' argument
  let key ← Key.ofName? name
  if name = "-f" then none else return (key, value)

/-- Gives an option a value.  Only variables may be given more than once. -/
def setOption (invocation : Invocation) (key : Key) (value : String) : Option Invocation :=
  match key with
  | .file => if invocation.file.isSome then none else some { invocation with file := value }
  | .variable =>
    some { invocation with assignments := invocation.assignments ++ [value] }
  | .format =>
    match invocation.format, value with
    | none, "table" => some { invocation with format := some .table }
    | none, "json" => some { invocation with format := some .json }
    | _, _ => none
  | .databaseUrl =>
    if invocation.databaseUrl.isSome then none
    else some { invocation with databaseUrl := value }

/-- Sets the instruction. -/
def setInstruction (invocation : Invocation) (argument : String) : Option Invocation :=
  if invocation.instruction.isSome then none
  else some { invocation with instruction := argument }

/-- The subcommand that the given arguments make up. -/
def subcommand? (name : String) (arguments : List String) : Option Subcommand :=
  match name, arguments with
  | "repl", [] => some .repl
  | "macros", [] => some .macros
  | "expand", ["--", instruction] => some (.expand instruction)
  | "expand", [instruction] =>
    if instruction.toList.head? = some '-' && instruction ≠ "-" then none
    else some (.expand instruction)
  | _, _ => none

/-- Reads arguments behind those that have led to the given call; nothing, if the
shell cannot be called like that. -/
def read (invocation : Invocation) : List String → Option Invocation
  | [] => some invocation
  | ["--"] => some invocation
  | ["--", instruction] => invocation.setInstruction instruction
  | argument :: rest =>
    if ["repl", "macros", "expand"].contains argument then
      (subcommand? argument rest).map fun subcommand =>
        { invocation with subcommand := some subcommand }
    else
      match Key.ofName? argument, attached? argument, rest with
      | some key, _, value :: rest => (invocation.setOption key value).bind (·.read rest)
      | some _, _, [] => none
      | none, some (key, value), rest => (invocation.setOption key value).bind (·.read rest)
      | none, none, rest => (invocation.setInstruction argument).bind (·.read rest)

/-- Reads the arguments of a call. -/
def ofArguments? (arguments : List String) : Option Invocation :=
  read {} arguments

end Invocation

end SqlNotebook.Shell
