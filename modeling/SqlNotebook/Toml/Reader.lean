/-
SqlNotebook/Toml/Reader.lean

Reading documents.  A reader takes a text and gives what it has read, together
with the text behind it.  Brackets and braces may be nested `maxDepth` deep, and
a key may have as many dots.
-/
import SqlNotebook.Toml.Quoted
import SqlNotebook.Toml.Scalar
import SqlNotebook.Toml.Tree

namespace SqlNotebook.Toml

/-- The number of brackets and braces that may be open at the same time, and of
names in a key. -/
def maxDepth : Nat := 79

/-- Whether a character can be part of a name that is not quoted. -/
def isBareChar (c : Char) : Bool :=
  c.isAlphanum || c = '_' || c = '-'

/-- Reads a name: one in quotes, on one line, or a nonempty bare one. -/
def readName : List Char → Option (String × List Char)
  | '"' :: rest => (readBasic rest).map fun (name, rest) => (String.ofList name, rest)
  | '\'' :: rest => (readLiteral rest).map fun (name, rest) => (String.ofList name, rest)
  | s =>
    let name := s.takeWhile isBareChar
    if name.isEmpty then none else some (String.ofList name, s.dropWhile isBareChar)

/-- Reads at most `limit` names with dots between them. -/
def readNames : (limit : Nat) → List Char → Option (List String × List Char)
  | 0, _ => none
  | limit + 1, s => do
    let (name, rest) ← readName (skipSpace s)
    match skipSpace rest with
    | '.' :: rest =>
      let (names, rest) ← readNames limit rest
      return (name :: names, rest)
    | rest => return ([name], rest)

/-- Reads a key. -/
def readKey (s : List Char) : Option (List String × List Char) :=
  readNames maxDepth s

/-- Passes over blanks, newlines and comments, in which it is if `comment` says
so.  A comment ends with its line. -/
def skipFiller : (comment : Bool) → List Char → Option (List Char)
  | false, [] => some []
  | true, [] => none
  | _, '\n' :: rest => skipFiller false rest
  | _, '\r' :: '\n' :: rest => skipFiller false rest
  | true, c :: rest => if isControl c then none else skipFiller true rest
  | false, c :: rest =>
    if isSpace c then skipFiller false rest
    else if c = '#' then skipFiller true rest
    else some (c :: rest)

/-- Reads at most `limit` values with commas between them, up to the closing
bracket, in front of which a comma may stand. -/
def readItems (value : List Char → Option (Toml × List Char)) :
    (limit : Nat) → List Char → Option (List Toml × List Char)
  | 0, _ => none
  | limit + 1, s => do
    match ← skipFiller false s with
    | ']' :: rest => return ([], rest)
    | start =>
      let (item, rest) ← value start
      match ← skipFiller false rest with
      | ',' :: rest =>
        let (items, rest) ← readItems value limit rest
        return (item :: items, rest)
      | ']' :: rest => return ([item], rest)
      | _ => none

/-- Reads a key with its value. -/
def readPair (value : List Char → Option (Toml × List Char)) (s : List Char) :
    Option ((List String × Toml) × List Char) := do
  let (key, rest) ← readKey s
  match rest with
  | '=' :: rest =>
    let (item, rest) ← value (skipSpace rest)
    return ((key, item), rest)
  | _ => none

/-- Reads at most `limit` pairs with commas between them, up to the closing
brace. -/
def readPairs (value : List Char → Option (Toml × List Char)) :
    (limit : Nat) → List Char → Option (List (List String × Toml) × List Char)
  | 0, _ => none
  | limit + 1, s => do
    let (pair, rest) ← readPair value s
    match skipSpace rest with
    | ',' :: rest =>
      let (pairs, rest) ← readPairs value limit rest
      return (pair :: pairs, rest)
    | '\x7d' :: rest => return ([pair], rest)
    | _ => none

/-- The table in braces with the given pairs. -/
def tableOfPairs? (pairs : List (List String × Toml)) : Option Toml := do
  let entries ← pairs.foldlM (fun (entries : Entries) pair => do
    let name ← pair.1.getLast?
    entries.set? .braces pair.1.dropLast name pair.2) []
  return .table .braces entries

/-- Reads a value in which `depth` more brackets and braces may be opened. -/
def readValue : (depth : Nat) → List Char → Option (Toml × List Char)
  | _, '"' :: rest =>
    (readQuoted ('"' :: rest)).map fun (value, rest) => (.text (String.ofList value), rest)
  | _, '\'' :: rest =>
    (readQuoted ('\'' :: rest)).map fun (value, rest) => (.text (String.ofList value), rest)
  | 0, '[' :: _ => none
  | depth + 1, '[' :: rest => do
    let (items, rest) ← readItems (readValue depth) (rest.length + 1) rest
    return (.array items, rest)
  | 0, '\x7b' :: _ => none
  | depth + 1, '\x7b' :: rest =>
    match skipSpace rest with
    | '\x7d' :: rest => some (.table .braces [], rest)
    | start => do
      let (pairs, rest) ← readPairs (readValue depth) (rest.length + 1) start
      let table ← tableOfPairs? pairs
      return (table, rest)
  | _, s => readWord s

/-- What follows the end of a comment's line. -/
def skipComment : List Char → Option (List Char)
  | [] => some []
  | '\n' :: rest => some rest
  | '\r' :: '\n' :: rest => some rest
  | c :: rest => if isControl c then none else skipComment rest

/-- What follows the end of a line on which only a comment may still stand. -/
def endLine (s : List Char) : Option (List Char) :=
  match skipSpace s with
  | [] => some []
  | '#' :: rest => skipComment rest
  | rest => afterNewline? rest

/-- Reads one line, or what takes its place, behind the blanks in front of it. -/
def readLine (draft : Draft) : List Char → Option (Draft × List Char)
  | '#' :: rest => (skipComment rest).map (draft, ·)
  | '[' :: '[' :: rest => do
    let (path, rest) ← readKey rest
    match rest with
    | ']' :: ']' :: rest =>
      let draft ← draft.startElement? path
      let rest ← endLine rest
      return (draft, rest)
    | _ => none
  | '[' :: rest => do
    let (path, rest) ← readKey rest
    match rest with
    | ']' :: rest =>
      let draft ← draft.startTable? path
      let rest ← endLine rest
      return (draft, rest)
    | _ => none
  | s =>
    match afterNewline? s with
    | some rest => some (draft, rest)
    | none => do
      let ((key, value), rest) ← readPair (readValue maxDepth) s
      let draft ← draft.setKey? key value
      let rest ← endLine rest
      return (draft, rest)

/-- Reads at most `limit` lines, up to the end. -/
def readLines : (limit : Nat) → Draft → List Char → Option Draft
  | 0, _, _ => none
  | limit + 1, draft, s =>
    match skipSpace s with
    | [] => some draft
    | start => do
      let (draft, rest) ← readLine draft start
      readLines limit draft rest

/-- Reads a text as a document.  A byte order mark at the start does not count. -/
def ofText? (text : String) : Option Entries := do
  let chars :=
    match text.toList with
    | '\ufeff' :: rest => rest
    | plain => plain
  let draft ← readLines (chars.length + 1) {} chars
  draft.finish?

end SqlNotebook.Toml
