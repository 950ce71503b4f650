/-
SqlNotebook/Binding.lean

Binding host variables in SQL.  A reference is a colon with the name behind it:

    SELECT * FROM T WHERE ID IN (:ids) AND OWNER = :who

Names are made of letters, digits, `_`, `@` and brackets, and run as far as they
can.  A reference is replaced by its value; a point behind it, as in `:schema.T`,
leaves the quotes away.  Quoted regions stay as they are, and so do references
without a value.  The character behind a reference never starts another one.
-/
import SqlNotebook.Dictionary
import SqlNotebook.HostValue
import SqlNotebook.Text.Quote

namespace SqlNotebook

/-- The host variables of a notebook. -/
abbrev Variables := Dictionary HostValue

/-- What the references resolve to. -/
abbrev HostEnv := String → Option HostValue

namespace HostEnv

/-- The environment in which `name` does not resolve. -/
def without (env : HostEnv) (name : String) : HostEnv :=
  fun other => if other = name then none else env other

/-- The environment in which only `name` resolves. -/
def single (name : String) (value : HostValue) : HostEnv :=
  fun other => if other = name then some value else none

end HostEnv

namespace Binding

/-- Whether a character can be part of a name. -/
def isNameChar (c : Char) : Bool :=
  c.isAlphanum || c = '_' || c = '@' || c = '[' || c = ']'

/-- Whether a name can have a value at all: one that is empty or starts with a
bracket cannot. -/
def isResolvable : List Char → Bool
  | [] => false
  | c :: _ => c ≠ '[' && c ≠ ']'

/-- The value of a name in an environment. -/
def value? (env : HostEnv) (name : List Char) : Option HostValue :=
  if isResolvable name then env (String.ofList name) else none

/-- What stands for the reference to `name` in front of the character `next`. -/
def replace (env : HostEnv) (name : List Char) (next : Option Char) : List Char :=
  match value? env name with
  | some value => (value.toSql (next ≠ some '.')).toList
  | none => ':' :: name

/-- Where a scan for references stands: it copies, or it has read the given part
of a name. -/
inductive Mode
  | copying (quote : QuoteState)
  | naming (name : List Char)
deriving DecidableEq, Repr

/-- Binds the references in what is left of a text. -/
def bindChars (env : HostEnv) : Mode → List Char → List Char
  | .copying _, [] => []
  | .naming name, [] => replace env name none
  | .copying none, ':' :: rest => bindChars env (.naming []) rest
  | .copying quote, c :: rest => c :: bindChars env (.copying (quote.next c)) rest
  | .naming name, c :: rest =>
    if isNameChar c then bindChars env (.naming (name ++ [c])) rest
    else
      replace env name (some c) ++
        c :: bindChars env (.copying (QuoteState.next none c)) rest

end Binding

/-- Binds the references in an SQL text.  A text without a colon has none. -/
def HostEnv.bind (env : HostEnv) (sql : String) : String :=
  if sql.toList.contains ':' then
    String.ofList (Binding.bindChars env (.copying none) sql.toList)
  else sql

end SqlNotebook
