/-
SqlNotebook/Macro/Table.lean

The macros that an instruction can call, by their names in upper case.
-/
import SqlNotebook.Error
import SqlNotebook.Macro.Run

namespace SqlNotebook

/-- The macros that are defined. -/
abbrev MacroTable := Dictionary Macro

namespace MacroTable

/-- Adds a macro, in place of one with the same name. -/
def add (table : MacroTable) (added : Macro) : MacroTable :=
  table.set added.name added

/-- Defines a macro by its name, in upper or lower case, and its text. -/
def define (table : MacroTable) (name text : String) : MacroTable :=
  table.add (Macro.ofText name text)

/-- The macro with the given name, in upper or lower case. -/
def find? (table : MacroTable) (name : String) : Option Macro :=
  table.get? (Text.upper name)

/-- The macro that an instruction calls. -/
def called? (table : MacroTable) (instruction : String) : Option Macro :=
  if Text.isBlank instruction then none
  else (Macro.Call.ofInstruction instruction).name?.bind table.get?

/-- An instruction with a first token calls the macro with the name that it gives. -/
theorem called?_of_name? (table : MacroTable) {instruction name : String}
    (h : (Macro.Call.ofInstruction instruction).name? = some name) :
    table.called? instruction = table.get? name := by
  have hblank : ¬ Text.isBlank instruction := by
    intro hblank
    rw [Macro.Call.name?, Macro.Call.ofInstruction, Token.split_of_isBlank hblank] at h
    cases h
  rw [called?, if_neg hblank, h, Option.bind_some]

/-- Expands an instruction: runs the macro that it calls, and leaves it as it is
if it calls none. -/
def expand (table : MacroTable) (instruction : String) : Except Error Macro.Expansion :=
  match table.called? instruction with
  | none => .ok (.unchanged instruction)
  | some called =>
    let state : Macro.State := { scope := (Macro.Call.ofInstruction instruction).scope }
    (state.run called.body).mapError fun fault => .structural fault.message instruction

theorem expand_of_called (table : MacroTable) {instruction : String} {called : Macro}
    (h : table.called? instruction = some called) :
    table.expand instruction =
      (Macro.State.run { scope := (Macro.Call.ofInstruction instruction).scope }
        called.body).mapError fun fault => .structural fault.message instruction := by
  rw [expand, h]

end MacroTable

end SqlNotebook
