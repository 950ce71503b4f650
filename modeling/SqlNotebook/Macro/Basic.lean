/-
SqlNotebook/Macro/Basic.lean

Macros, the instructions that call them, and what comes out of a call.

A macro is a named list of lines.  An instruction whose first token is the name
of a macro, in upper or lower case, is replaced by what the lines produce when
they are run against the tokens of the instruction.
-/
import SqlNotebook.Notice
import SqlNotebook.Scope
import SqlNotebook.Text.Upper
import SqlNotebook.Token

namespace SqlNotebook

/-- A macro, under its name in upper case. -/
structure Macro where
  name : String
  body : List String
deriving DecidableEq, Repr

namespace Macro

/-- The macro with the given name whose lines are the lines of `text`. -/
def ofText (name text : String) : Macro :=
  ⟨Text.upper name, Text.lines text⟩

/-- One use of a macro: the tokens of the instruction. -/
structure Call where
  tokens : List String
deriving DecidableEq, Repr

namespace Call

/-- Reads an instruction as a call. -/
def ofInstruction (instruction : String) : Call :=
  ⟨Token.split instruction⟩

/-- The name of the macro that would be called, in upper case. -/
def name? (call : Call) : Option String :=
  call.tokens.head?.map Text.upper

/-- The number of arguments. -/
def argumentCount (call : Call) : Nat :=
  call.tokens.length - 1

/-- The variables that the macro starts with. -/
def scope (call : Call) : Scope :=
  Scope.ofTokens call.tokens

end Call

/-- What becomes of an instruction. -/
structure Expansion where
  /-- What is to be run in place of the instruction. -/
  text : String
  /-- The flags that the macro has asked for. -/
  flags : List String := []
  /-- What the macro has reported. -/
  notices : List Notice := []
  /-- Whether a macro has run at all. -/
  expanded : Bool := false
  /-- Whether the macro has given up, so that nothing is to be run. -/
  exited : Bool := false
deriving DecidableEq, Repr

/-- What becomes of an instruction that calls no macro: nothing changes. -/
def Expansion.unchanged (instruction : String) : Expansion :=
  { text := instruction }

/-- What is wrong with the body of a macro. -/
inductive Fault
  | unmatched
  | tooDeep
  | missingOperands
deriving DecidableEq, Repr

/-- The number of `if` lines that may be open and evaluated at the same time. -/
def maxDepth : Nat := 9

/-- What is reported about a fault. -/
def Fault.message : Fault → String
  | .unmatched => "Unmatched if/endif pairs."
  | .tooDeep => "if statements nested deeper than " ++ toString maxDepth ++ " levels."
  | .missingOperands => "Incorrect number of arguments for the if clause."

end Macro

end SqlNotebook
