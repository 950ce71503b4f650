/-
SqlNotebook/Notebook/Basic.lean

A notebook: everything that is kept from one instruction to the next.

What an instruction does is an `Action`.  An action may fail, but what it has
changed before it fails stays changed.  The equations at the end say how actions
run; nothing else has to be known about them.
-/
import SqlNotebook.Binding
import SqlNotebook.Database.Basic
import SqlNotebook.Instruction.Flags
import SqlNotebook.Macro.Builtin
import SqlNotebook.Settings.File

namespace SqlNotebook

/-- How the last statement has ended, in the terms of the database. -/
structure Status where
  /-- Zero, if there is nothing to report. -/
  code : Int := 0
  state : String := "00000"
  error : String := ""
deriving DecidableEq, Repr

namespace Status

/-- The code of a query that has returned no rows. -/
def noRowsCode : Int := 100

/-- The code of an error that has none of its own, or one that is no number. -/
def unknownCode : Int := -1

/-- The status after an error. -/
def ofError (error : Error) : Status where
  code := (error.code?.bind Numeral.integer?).getD unknownCode
  state := error.state?.getD ""
  error := error.text

end Status

/-- Where settings are kept. -/
inductive SettingsStore
  | nowhere
  /-- In a file with the given text, or one that is still missing. -/
  | file (text : Option String)
  /-- In a file that cannot be written. -/
  | blocked
deriving DecidableEq, Repr

/-- The settings that are kept.  Where none can be, they are those of a new notebook. -/
def SettingsStore.load : SettingsStore → Except Error Settings
  | nowhere => .ok {}
  | file text => Settings.ofFile text
  | blocked => .ok {}

/-- A notebook. -/
structure Notebook where
  settings : Settings := {}
  store : SettingsStore := .nowhere
  macros : MacroTable := Macro.builtins
  hostVariables : Variables := Dictionary.empty
  /-- The flags of the instruction that runs, or else of the last one. -/
  flags : List String := []
  /-- Where connections lead, as soon as that has been settled. -/
  source : Option Source := none
  /-- The open connection. -/
  session : Option Connection := none
  status : Status := {}
  history : History := []

namespace Notebook

/-- Whether one of the given flags is set. -/
def hasAny (notebook : Notebook) (forms : List String) : Bool :=
  notebook.flags.any forms.contains

/-- Whether a flag is set. -/
def has (notebook : Notebook) (flag : Flag) : Bool :=
  notebook.hasAny flag.forms

/-- What the references in a statement resolve to. -/
def environment (notebook : Notebook) : HostEnv :=
  notebook.hostVariables.get?

/-- Defines a macro. -/
def define (notebook : Notebook) (name text : String) : Notebook :=
  { notebook with macros := notebook.macros.define name text }

/-- Gives a host variable a value. -/
def setVariable (notebook : Notebook) (name : String) (value : HostValue) : Notebook :=
  { notebook with hostVariables := notebook.hostVariables.set name value }

end Notebook

/-- Something that is done to a notebook. -/
abbrev Action (α : Type) := ExceptT Error (StateM Notebook) α

namespace Action

variable {α β : Type}

/-- Has a conversation with a database. -/
def ofTalk (talk : Talk α) : Action α :=
  ExceptT.mk fun notebook =>
    ((talk.run notebook.history).1,
      { notebook with history := (talk.run notebook.history).2 })

/-- Succeeds or fails without a change to the notebook. -/
def ofExcept (outcome : Except Error α) : Action α :=
  ExceptT.mk fun notebook => (outcome, notebook)

/-- Does something that may fail, and goes on with its success or failure. -/
def attempt (action : Action α) : Action (Except Error α) :=
  ExceptT.mk fun notebook =>
    (.ok (action.run notebook).1, (action.run notebook).2)

theorem run_pure (a : α) (notebook : Notebook) :
    (pure a : Action α).run notebook = (.ok a, notebook) := rfl

theorem run_get (notebook : Notebook) :
    (get : Action Notebook).run notebook = (.ok notebook, notebook) := rfl

theorem run_modify (change : Notebook → Notebook) (notebook : Notebook) :
    (modify change : Action Unit).run notebook = (.ok (), change notebook) := rfl

theorem run_ofTalk (talk : Talk α) (notebook : Notebook) :
    (ofTalk talk).run notebook =
      ((talk.run notebook.history).1,
        { notebook with history := (talk.run notebook.history).2 }) := rfl

theorem run_ofExcept (outcome : Except Error α) (notebook : Notebook) :
    (ofExcept outcome).run notebook = (outcome, notebook) := rfl

theorem run_attempt (action : Action α) (notebook : Notebook) :
    (attempt action).run notebook =
      (.ok (action.run notebook).1, (action.run notebook).2) := rfl

theorem run_bind (action : Action α) (next : α → Action β) (notebook : Notebook) :
    (action >>= next).run notebook =
      match action.run notebook with
      | (.ok a, changed) => (next a).run changed
      | (.error error, changed) => (.error error, changed) := by
  rw [ExceptT.run_bind]
  change StateT.bind action.run _ notebook = _
  rw [StateT.bind]
  rcases action.run notebook with ⟨outcome | a, changed⟩ <;> rfl

end Action

end SqlNotebook
