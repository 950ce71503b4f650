/-
SqlNotebook/Json/Reader.lean

Reading documents.  A reader takes a text and gives what it has read, together
with the text behind it.  Arrays and objects may be nested `maxDepth` deep.
-/
import SqlNotebook.Json.Number
import SqlNotebook.Text.Hex

namespace SqlNotebook.Json

/-- The number of arrays and objects that may be open at the same time. -/
def maxDepth : Nat := 127

/-- Whether a character may stand between the parts of a document. -/
def isSpace (c : Char) : Bool :=
  c = ' ' || c = '\t' || c = '\n' || c = '\r'

/-- Drops what may stand between the parts of a document. -/
def skipSpace (s : List Char) : List Char :=
  s.dropWhile isSpace

/-- Whether a code unit is the first half of a surrogate pair. -/
def isHighSurrogate (unit : Nat) : Bool :=
  0xD800 ≤ unit && unit < 0xDC00

/-- Whether a code unit is the second half of a surrogate pair. -/
def isLowSurrogate (unit : Nat) : Bool :=
  0xDC00 ≤ unit && unit < 0xE000

/-- The character behind a backslash, where it is a single letter. -/
def escaped? : Char → Option Char
  | '"' => some '"'
  | '\\' => some '\\'
  | '/' => some '/'
  | 'b' => some '\x08'
  | 'f' => some '\x0c'
  | 'n' => some '\n'
  | 'r' => some '\r'
  | 't' => some '\t'
  | _ => none

/-- Reads a text behind its opening quote, up to its closing quote. -/
def readText : List Char → Option (List Char × List Char)
  | [] => none
  | '"' :: rest => some ([], rest)
  | '\\' :: 'u' :: a :: b :: c :: d :: rest =>
    match Chars.hexNumber? [a, b, c, d] with
    | none => none
    | some unit =>
      if isHighSurrogate unit then
        match rest with
        | '\\' :: 'u' :: e :: f :: g :: h :: rest =>
          match Chars.hexNumber? [e, f, g, h] with
          | none => none
          | some low =>
            if isLowSurrogate low then
              let code := 0x10000 + (unit - 0xD800) * 0x400 + (low - 0xDC00)
              (readText rest).map fun (read, rest) => (Char.ofNat code :: read, rest)
            else none
        | _ => none
      else if isLowSurrogate unit then none
      else (readText rest).map fun (read, rest) => (Char.ofNat unit :: read, rest)
  | '\\' :: c :: rest =>
    match escaped? c with
    | none => none
    | some c => (readText rest).map fun (read, rest) => (c :: read, rest)
  | c :: rest =>
    if c.toNat < 0x20 || c = '\\' then none
    else (readText rest).map fun (read, rest) => (c :: read, rest)

/-- Whether a character can be part of a numeral. -/
def isNumeralChar (c : Char) : Bool :=
  c.isDigit || c = '+' || c = '-' || c = '.' || c = 'e' || c = 'E'

/-- Reads a word or a number. -/
def readScalar (s : List Char) : Option (Json × List Char) :=
  match s with
  | 'n' :: 'u' :: 'l' :: 'l' :: rest => some (.null, rest)
  | 't' :: 'r' :: 'u' :: 'e' :: rest => some (.boolean true, rest)
  | 'f' :: 'a' :: 'l' :: 's' :: 'e' :: rest => some (.boolean false, rest)
  | '"' :: rest => (readText rest).map fun (read, rest) => (.text (String.ofList read), rest)
  | s =>
    (JsonNumber.ofChars? (s.takeWhile isNumeralChar)).map fun value =>
      (.number value, s.dropWhile isNumeralChar)

/-- Reads parts that are separated by commas, up to the closing bracket.  There
is at least one part, and `limit` bounds their number. -/
def readParts {α : Type} (part : List Char → Option (α × List Char)) (closing : Char) :
    (limit : Nat) → List Char → Option (List α × List Char)
  | 0, _ => none
  | limit + 1, s =>
    match part (skipSpace s) with
    | none => none
    | some (value, rest) =>
      match skipSpace rest with
      | [] => none
      | c :: rest =>
        if c = closing then some ([value], rest)
        else if c = ',' then
          (readParts part closing limit rest).map fun (values, rest) => (value :: values, rest)
        else none

/-- Reads the parts between two brackets, of which the opening one has been
read. -/
def readBracketed {α : Type} (part : List Char → Option (α × List Char)) (closing : Char)
    (s : List Char) : Option (List α × List Char) :=
  match skipSpace s with
  | [] => none
  | c :: rest =>
    if c = closing then some ([], rest) else readParts part closing (s.length + 1) (c :: rest)

/-- Reads a member of an object, with the given reader for its value. -/
def readMember (value : List Char → Option (Json × List Char)) :
    List Char → Option ((String × Json) × List Char)
  | '"' :: rest =>
    match readText rest with
    | none => none
    | some (name, rest) =>
      match skipSpace rest with
      | ':' :: rest =>
        (value (skipSpace rest)).map fun (document, rest) =>
          ((String.ofList name, document), rest)
      | _ => none
  | _ => none

/-- Reads a document in which `depth` more brackets may be opened. -/
def readDocument : (depth : Nat) → List Char → Option (Json × List Char)
  | 0, s => readScalar s
  | depth + 1, '[' :: rest =>
    (readBracketed (readDocument depth) ']' rest).map fun (items, rest) => (.array items, rest)
  | depth + 1, '\x7b' :: rest =>
    (readBracketed (readMember (readDocument depth)) '\x7d' rest).map fun (members, rest) =>
      (ofMembers members, rest)
  | _ + 1, s => readScalar s

/-- Reads a text that is one document. -/
def ofText? (text : String) : Option Json :=
  match readDocument maxDepth (skipSpace text.toList) with
  | some (document, rest) => if (skipSpace rest).isEmpty then some document else none
  | none => none

end SqlNotebook.Json
