/-
SqlNotebook/Instruction/Basic.lean

Instructions, and how they are told apart by their first word.

    define NAME                   CONNECT [TO] url
    OPTION word …                 CONNECT CLOSE | CONNECT RESET
    COMMIT | ROLLBACK             USING name SELECT …
    AUTOCOMMIT ON | OFF           ?

Everything else is SQL.
-/
import SqlNotebook.Error
import SqlNotebook.Instruction.CommandWord
import SqlNotebook.Text.Blank

namespace SqlNotebook

/-- An instruction. -/
inductive Instruction
  /-- Defines a macro, whose body comes with the instruction. -/
  | define (name : String)
  | options (words : List String)
  | connect (url : Option String)
  /-- Closes the connection, and forgets where it led if asked to. -/
  | disconnect (forget : Bool)
  | commit
  | rollback
  | autocommit (on : Bool)
  /-- Runs a query for every item of the list variable `name`.  The query still
  has its `USING` in front. -/
  | using (name : String) (query : String)
  | help
  | sql (text : String)
deriving DecidableEq, Repr

namespace Instruction

/-- What is wrong with an instruction. -/
inductive Fault
  | missingCommandName
  | missingMode
  | missingVariable
  | missingBody (name : String)
deriving DecidableEq, Repr

/-- What is reported about a fault. -/
def Fault.message : Fault → String
  | .missingCommandName => "No command name supplied."
  | .missingMode => "AUTOCOMMIT requires ON or OFF."
  | .missingVariable => "USING requires a variable name."
  | .missingBody name => "No body supplied for macro " ++ name ++ "."

/-- The error for a fault at the given byte. -/
def Fault.toError (fault : Fault) (position : Nat) : Error :=
  .parse position fault.message

/-- Reads an instruction whose first word is `word`; `text` is all of it, and
`rest` is what follows the word. -/
def ofWord (word text rest : String) : Except Error Instruction :=
  let arguments := Text.words rest
  match word with
  | "DEFINE" =>
    match arguments with
    | name :: _ => .ok (.define (Text.upper name))
    | [] => .error (Fault.missingCommandName.toError text.utf8ByteSize)
  | "OPTION" | "OPTIONS" => .ok (.options arguments)
  | "CONNECT" =>
    match arguments with
    | [] => .ok (.connect none)
    | first :: others =>
      match Text.upperAscii first with
      | "CLOSE" => .ok (.disconnect false)
      | "RESET" => .ok (.disconnect true)
      | "TO" => .ok (.connect others.head?)
      | _ => .ok (.connect (some rest))
  | "COMMIT" => .ok .commit
  | "ROLLBACK" => .ok .rollback
  | "AUTOCOMMIT" =>
    match arguments.head?.map Text.upperAscii with
    | some "ON" => .ok (.autocommit true)
    | some "OFF" => .ok (.autocommit false)
    | _ => .error (Fault.missingMode.toError word.utf8ByteSize)
  | "USING" =>
    match arguments with
    | name :: _ => .ok (.using name text)
    | [] => .error (Fault.missingVariable.toError text.utf8ByteSize)
  | _ => .ok (.sql text)

/-- Reads an instruction without its flags. -/
def ofText (text : String) : Except Error Instruction :=
  let text := Text.trim text
  if text = "?" then .ok .help
  else
    let word := commandWord text
    let rest := Text.trim (String.ofList (text.toList.drop word.toList.length))
    ofWord word text rest

end Instruction

end SqlNotebook
