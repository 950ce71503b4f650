/-
SqlNotebook/Database/Url.lean

Databases that are named by a URL.  The only one that can be reached is the
database in memory; every other name is refused, and the refusal says why.
-/
import SqlNotebook.Database.Memory
import SqlNotebook.Database.Scripted

namespace SqlNotebook

/-- A URL, as far as it says which database is meant. -/
structure DatabaseUrl where
  /-- In lower case. -/
  scheme : String
  /-- What stands behind the colon. -/
  rest : List Char

namespace DatabaseUrl

/-! ### Reading -/

/-- Why a text is no URL. -/
inductive Fault
  /-- It has no scheme. -/
  | relative
  | emptyHost
  /-- Its host has a character that hosts do not have. -/
  | hostCharacter
  /-- Its host is an address that does not end. -/
  | hostAddress
  /-- What stands behind the colon of its host is no number of a service. -/
  | serviceNumber
deriving DecidableEq, Repr

/-- What is said about a text that is no URL. -/
def Fault.text : Fault → String
  | relative => "relative URL without a base"
  | emptyHost => "empty host"
  | hostCharacter => "invalid domain character"
  | hostAddress => "invalid IPv6 address"
  | serviceNumber => "invalid port number"

/-- Whether a character is passed over at the ends of a URL. -/
def isEdge (c : Char) : Bool :=
  c.toNat ≤ 0x20

/-- A text without what is passed over in a URL. -/
def clean (text : List Char) : List Char :=
  let inner := ((text.dropWhile isEdge).reverse.dropWhile isEdge).reverse
  inner.filter fun c => c ≠ '\t' && c ≠ '\n' && c ≠ '\r'

/-- Whether a character can be part of a scheme. -/
def isSchemeChar (c : Char) : Bool :=
  c.isAlphanum || c = '+' || c = '-' || c = '.'

/-- The scheme of a URL, and what stands behind it. -/
def split? (text : List Char) : Option DatabaseUrl :=
  let scheme := text.takeWhile isSchemeChar
  match scheme, text.dropWhile isSchemeChar with
  | first :: _, ':' :: rest =>
    if first.isAlpha then some ⟨String.ofList (Chars.lowerAscii scheme), rest⟩ else none
  | _, _ => none

/-- What stands between two slashes and the path: perhaps a user, a host, perhaps
the number of a service. -/
def authority (url : DatabaseUrl) : List Char :=
  match url.rest with
  | '/' :: '/' :: inner => inner.takeWhile fun c => c ≠ '/' && c ≠ '?' && c ≠ '#'
  | _ => []

/-- What stands behind the user. -/
def address (authority : List Char) : List Char :=
  (authority.reverse.takeWhile (· ≠ '@')).reverse

/-- What stands in front of the number: everything up to a colon outside of
brackets. -/
def hostOf : (inBrackets : Bool) → List Char → List Char
  | _, [] => []
  | inBrackets, c :: rest =>
    if c = ':' && !inBrackets then []
    else c :: hostOf (if c = '[' then true else if c = ']' then false else inBrackets) rest

/-- Whether hosts do not have a character. -/
def isForbiddenInHost (c : Char) : Bool :=
  ("\x00 <>@[\\]^|".toList).contains c

/-- Why a text is no host. -/
def hostFault? (host : List Char) : Option Fault :=
  if host.head? = some '[' then
    if host.getLast? = some ']' then none else some .hostAddress
  else if host.any isForbiddenInHost then some .hostCharacter
  else none

/-- Why a text, with a colon in front of it, is no number of a service. -/
def serviceFault? (number : List Char) : Option Fault :=
  let digits := number.drop 1
  if digits.all Char.isDigit && Nat.ofDigitChars 10 digits 0 < 65536 then none
  else some .serviceNumber

/-- Why a text is no authority. -/
def authorityFault? (authority : List Char) : Option Fault :=
  let inner := address authority
  let host := hostOf false inner
  let noHost := if host.isEmpty && !authority.isEmpty then some Fault.emptyHost else none
  hostFault? host <|> noHost <|> serviceFault? (inner.drop host.length)

/-- Reads a URL. -/
def ofText (text : String) : Except Fault DatabaseUrl :=
  match split? (clean text.toList) with
  | none => .error .relative
  | some url =>
    match authorityFault? url.authority with
    | some fault => .error fault
    | none => .ok url

/-! ### Reaching the database -/

/-- The scheme of the databases that need no server. -/
def serverless : String := "sqlite"

/-- Whether a URL leads to the database in memory. -/
def isMemory (url : DatabaseUrl) : Bool :=
  url.scheme = serverless && url.rest = ":memory:".toList

/-- Why a URL that does not lead to the database in memory leads nowhere. -/
def refusal (url : DatabaseUrl) : String :=
  if url.scheme = serverless then
    "error returned from database: (code: 14) unable to open database file"
  else "error with configuration: no driver found for URL scheme \"" ++ url.scheme ++ "\""

/-- What the database with the given name answers after the calls so far. -/
def reply (name : String) (history : History) (call : Call) : Except Error call.Reply :=
  match ofText name with
  | .error fault => .error (.connection ("error with configuration: " ++ fault.text))
  | .ok url =>
    if url.isMemory then MemoryConnection.reply history call
    else .error (.connection url.refusal)

end DatabaseUrl

/-- The database that answers from a script where it is the one that the
notebook has been given, and by URL elsewhere. -/
def Script.database (script : Script) : Database where
  reply history call :=
    match call.connection.source with
    | .given => script.reply call
    | .url name => DatabaseUrl.reply name history call

end SqlNotebook
