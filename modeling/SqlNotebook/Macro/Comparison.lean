/-
SqlNotebook/Macro/Comparison.lean

The comparisons of an `if` line.  Operands are texts and are ordered as texts,
by code points, also where they look like numbers.
-/

namespace SqlNotebook.Macro

/-- How two operands are compared. -/
inductive Comparison
  | eq
  | ne
  | lt
  | le
  | gt
  | ge
deriving DecidableEq, Repr

namespace Comparison

/-- The comparison that an operator stands for. -/
def ofOperator? : String → Option Comparison
  | "==" | "=" => some .eq
  | "<>" | "!=" => some .ne
  | "<" => some .lt
  | "<=" | "=<" => some .le
  | ">" => some .gt
  | ">=" | "=>" => some .ge
  | _ => none

/-- Whether the comparison holds between two texts. -/
def holds : Comparison → String → String → Bool
  | .eq, a, b => a = b
  | .ne, a, b => a ≠ b
  | .lt, a, b => a < b
  | .le, a, b => a ≤ b
  | .gt, a, b => a > b
  | .ge, a, b => a ≥ b

end Comparison

end SqlNotebook.Macro
