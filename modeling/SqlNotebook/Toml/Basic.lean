/-
SqlNotebook/Toml/Basic.lean

TOML documents, as far as settings need them: the values of floating-point
numbers and of dates are not kept.
-/

namespace SqlNotebook

/-- How a table has come to be, which decides what may still be added to it. -/
inductive TableOrigin
  /-- By its own header, or as the document itself. -/
  | header
  /-- As the parent of a table with a header. -/
  | parent
  /-- By a key with dots. -/
  | dottedKey
  /-- As a value in braces. -/
  | braces
deriving DecidableEq, Repr

/-- A value in a document. -/
inductive Toml
  | text (value : String)
  | integer (value : Int)
  | boolean (value : Bool)
  | float
  | moment
  | array (items : List Toml)
  | table (origin : TableOrigin) (entries : List (String × Toml))
  /-- The tables that have been given under the same header, the last one first. -/
  | tables (elements : List (List (String × Toml)))
deriving Repr

instance : Inhabited Toml := ⟨.float⟩

namespace Toml

/-- Whether a character may stand neither in a text nor in a comment. -/
def isControl (c : Char) : Bool :=
  (c.toNat < 0x20 && c ≠ '\t') || c.toNat = 0x7F

/-- Whether a character separates the parts of a line. -/
def isSpace (c : Char) : Bool :=
  c = ' ' || c = '\t'

/-- Drops what separates the parts of a line. -/
def skipSpace (s : List Char) : List Char :=
  s.dropWhile isSpace

/-- What follows a newline, if there is one. -/
def afterNewline? : List Char → Option (List Char)
  | '\n' :: rest => some rest
  | '\r' :: '\n' :: rest => some rest
  | _ => none

end Toml

end SqlNotebook
