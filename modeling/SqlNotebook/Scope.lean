/-
SqlNotebook/Scope.lean

The variables of one macro call.  The tokens of the instruction are the
variables `0`, `1`, …, and `argc` counts them without the name of the macro.
-/
import SqlNotebook.Dictionary

namespace SqlNotebook

/-- The variables that placeholders refer to. -/
abbrev Scope := Dictionary String

namespace Scope

/-- Numbers the tokens from `n` on and puts each under its number. -/
def addNumbered (scope : Scope) : Nat → List String → Scope
  | _, [] => scope
  | n, token :: rest => addNumbered (scope.set (toString n) token) (n + 1) rest

/-- The scope that an instruction's tokens start with. -/
def ofTokens (tokens : List String) : Scope :=
  (addNumbered Dictionary.empty 0 tokens).set "argc" (toString (tokens.length - 1))

end Scope

end SqlNotebook
