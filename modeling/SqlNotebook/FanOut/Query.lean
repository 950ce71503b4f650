/-
SqlNotebook/FanOut/Query.lean

The query of a fan-out.  It is a template in which the reference to one list
variable is bound to one item of the list at a time.
-/
import SqlNotebook.Binding
import SqlNotebook.Error
import SqlNotebook.Instruction.CommandWord

namespace SqlNotebook.FanOut

/-- Why a query is not fanned out. -/
inductive Rejection
  | unknownVariable (name : String)
  | nameMissing (name : String)
  | notQuery
  | unused (name : String)
  | notList (name : String)
  | emptyList (name : String)
  | emptyItem (name : String)
  | noAnswerSet
deriving DecidableEq, Repr

/-- What is reported about a rejection. -/
def Rejection.message : Rejection → String
  | .unknownVariable name => "The variable " ++ name ++ " was not found."
  | .nameMissing name => "The parallelism value (" ++ name ++ ") must follow USING."
  | .notQuery => "SQL statement does not contain a SELECT statement."
  | .unused name => "The parallelism value (" ++ name ++ ") was not found in the SQL statement"
  | .notList name => "The variable " ++ name ++ " is not an array or a list of values."
  | .emptyList name => "The variable " ++ name ++ " contains no values."
  | .emptyItem name => "The variable " ++ name ++ " contains array values that are empty."
  | .noAnswerSet => "The SQL statement does not return an answer set."

/-- The error for a rejection. -/
def Rejection.toError (rejection : Rejection) : Error :=
  .parallel rejection.message

/-- What follows the name in a text that starts with it, if that is white space,
without the white space. -/
def afterName? (name s : List Char) : Option (List Char) :=
  if name.isPrefixOf s then
    match s.drop name.length with
    | c :: rest => if Chars.isBlank c then some (Chars.trimStart (c :: rest)) else none
    | [] => none
  else none

/-- Takes `USING` and the name off the front of a text that has them. -/
def dropUsing (name s : List Char) : Except Rejection (List Char) :=
  let body := Chars.trimStart s
  if Chars.commandWord body = "USING".toList then
    match afterName? name (Chars.trimStart (body.drop "USING".toList.length)) with
    | some rest => .ok rest
    | none => .error (.nameMissing (String.ofList name))
  else .ok body

/-- The query behind an optional `USING name`.  It starts with `SELECT` or with
`WITH`. -/
def body (sql name : String) : Except Rejection String := do
  let rest ← dropUsing name.toList sql.toList
  let query := String.ofList rest
  match commandWord query with
  | "SELECT" | "WITH" => return query
  | _ => throw .notQuery

/-- The query for one item: the references to `name` are bound to it, and no
others. -/
def itemSql (template name : String) (item : HostValue) : String :=
  (HostEnv.single name item).bind template

/-- The item with which the query is checked: the first one, or the first one in
it if it is a list itself. -/
def sample (name : String) : List HostValue → Except Rejection HostValue
  | [] => .error (.emptyList name)
  | .list [] :: _ => .error (.emptyItem name)
  | .list (item :: _) :: _ => .ok item
  | item :: _ => .ok item

end SqlNotebook.FanOut
