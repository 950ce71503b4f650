/-
SqlNotebook/Json/Basic.lean

JSON documents.  Numbers keep apart integers of 64 bits and floating-point
numbers; the members of an object have distinct names and stand in the order of
these names.
-/
import SqlNotebook.Decimal.Binary64

namespace SqlNotebook

/-- A number in a document. -/
inductive JsonNumber
  /-- An integer from `-2 ^ 63` up to, but not including, `2 ^ 64`. -/
  | integer (value : Int)
  | real (value : Binary64)
deriving DecidableEq, Repr

/-- A document. -/
inductive Json
  | null
  | boolean (value : Bool)
  | number (value : JsonNumber)
  | text (value : String)
  | array (items : List Json)
  | object (members : List (String × Json))
deriving Repr

namespace Json

instance : Inhabited Json := ⟨.null⟩

/-- The document for a floating-point number; an infinity or the undefined
number is `null`. -/
def ofBinary64 (value : Binary64) : Json :=
  if value.isFinite then .number (.real value) else .null

/-- Puts a member at its place, instead of one with the same name. -/
def insertMember (name : String) (value : Json) : List (String × Json) → List (String × Json)
  | [] => [(name, value)]
  | member :: rest =>
    if name < member.1 then (name, value) :: member :: rest
    else if name = member.1 then (name, value) :: rest
    else member :: insertMember name value rest

/-- The object with the given members; of members with one name the last counts. -/
def ofMembers (members : List (String × Json)) : Json :=
  .object (members.foldl (fun done member => insertMember member.1 member.2 done) [])

/-- The value under `name` in an object. -/
def member? (name : String) : Json → Option Json
  | .object members => members.lookup name
  | _ => none

end Json

end SqlNotebook
