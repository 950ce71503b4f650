/-
SqlNotebook/FanOut/Scripted.lean

Engines that answer from a script, for trying fan-outs and notebooks out.  All
connections lead to the same script, and jobs take their turns in a given order.
-/
import SqlNotebook.Database.Scripted
import SqlNotebook.FanOut.Run

namespace SqlNotebook

/-- The script in which one call fails for the statements with `text` in them. -/
def Script.losing (text : String) (call : StatementCall) (error : Error) : Script where
  rules := [{ contains := text, failure := some (call, error) }]

/-- The engine that answers from a script. -/
def Script.engine (script : Script) (order : (jobs : Nat) → List Nat := fun _ => []) : Engine where
  database := ⟨fun _ => script.reply⟩
  order := order

/-- The engine that refuses nothing. -/
def Engine.willing : Engine :=
  Script.engine {}

end SqlNotebook
