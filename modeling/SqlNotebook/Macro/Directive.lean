/-
SqlNotebook/Macro/Directive.lean

What a line of a macro says, by its tokens.

    var name word …     stores a variable
    if a op b           runs the lines up to `else` or `endif` if the comparison holds
    else                goes over to the other half of an `if`
    endif               ends an `if`
    echo word …         reports a message
    exit word …         reports an error, and the macro expands to nothing
    flags word …        puts flags in front of the expansion
    return              ends the macro and keeps what it has produced
    pass                does nothing

Every other line is text, which goes into the expansion.
-/
import SqlNotebook.Text.Blank
import SqlNotebook.Text.Quote

namespace SqlNotebook.Macro

/-- The operands and the operator of an `if` line. -/
structure Condition where
  left : String
  operator : String
  right : String
deriving DecidableEq, Repr

/-- Takes the quotes off an operand that is longer than the quotes alone. -/
def unquoteChars : List Char → List Char
  | [] => []
  | first :: rest =>
    if isQuote first && 2 ≤ rest.length && rest.getLast? = some first then
      Chars.trim rest.dropLast
    else first :: rest

/-- Takes the quotes off an operand that is longer than the quotes alone. -/
def unquote (operand : String) : String :=
  String.ofList (unquoteChars operand.toList)

/-- Reads the tokens behind `if`.  The right operand may stand in quotes, and
further tokens do not matter. -/
def Condition.ofTokens? : List String → Option Condition
  | left :: operator :: right :: _ => some ⟨left, operator, unquote right⟩
  | _ => none

/-- What a line says. -/
inductive Directive
  /-- An `if`, without a condition where tokens are missing. -/
  | openIf (condition : Option Condition)
  | otherwise
  | closeIf
  /-- A `var`, without a name where tokens are missing. -/
  | var (name : Option String) (words : List String)
  | echo (words : List String)
  | exit (words : List String)
  | flags (words : List String)
  | return
  | pass
  | text
deriving DecidableEq, Repr

/-- What a line with the given tokens says. -/
def Directive.ofTokens : List String → Directive
  | [] => .text
  | keyword :: rest =>
    match keyword with
    | "if" => .openIf (Condition.ofTokens? rest)
    | "else" => .otherwise
    | "endif" => .closeIf
    | "var" => .var rest.head? rest.tail
    | "echo" => .echo rest
    | "exit" => .exit rest
    | "flags" => .flags rest
    | "return" => .return
    | "pass" => .pass
    | _ => .text

end SqlNotebook.Macro
