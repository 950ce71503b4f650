/-
SqlNotebook/Notice.lean

Messages for the person at the keyboard.
-/

namespace SqlNotebook

/-- A message, which either informs or reports something that went wrong. -/
inductive Notice
  | info (message : String)
  | error (message : String)
deriving DecidableEq, Repr

namespace Notice

/-- The text of a notice. -/
def message : Notice → String
  | info text => text
  | error text => text

end Notice

end SqlNotebook
