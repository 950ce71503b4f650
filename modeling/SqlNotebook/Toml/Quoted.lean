/-
SqlNotebook/Toml/Quoted.lean

Quoted texts.  There are four forms: between double quotes, where a backslash
escapes; between single quotes, where nothing does; and both with three quotes
in a row, where newlines are allowed, the first of them does not count, and up
to two quotes in a row are part of the text.

`quote` writes a text in the first form that fits, and `readQuoted` reads all
four.
-/
import SqlNotebook.Text.Hex
import SqlNotebook.Toml.Basic

namespace SqlNotebook.Toml

/-! ### Reading -/

/-- The character behind a backslash, where it is a single letter. -/
def escaped? : Char → Option Char
  | 'b' => some '\x08'
  | 't' => some '\t'
  | 'n' => some '\n'
  | 'f' => some '\x0c'
  | 'r' => some '\r'
  | '"' => some '"'
  | '\\' => some '\\'
  | _ => none

/-- The character with the given code point in hexadecimal. -/
def codePoint? (digits : List Char) : Option Char :=
  Chars.hexNumber? digits >>= Chars.ofCodePoint?

/-- Puts a character in front of what has been read. -/
def prepend (c : Option Char) (read : Option (List Char × List Char)) :
    Option (List Char × List Char) := do
  let c ← c
  let (chars, rest) ← read
  return (c :: chars, rest)

/-- Reads up to a double quote. -/
def readBasic : List Char → Option (List Char × List Char)
  | [] => none
  | '"' :: rest => some ([], rest)
  | '\\' :: 'u' :: a :: b :: c :: d :: rest =>
    prepend (codePoint? [a, b, c, d]) (readBasic rest)
  | '\\' :: 'U' :: a :: b :: c :: d :: e :: f :: g :: h :: rest =>
    prepend (codePoint? [a, b, c, d, e, f, g, h]) (readBasic rest)
  | '\\' :: c :: rest => prepend (escaped? c) (readBasic rest)
  | c :: rest => if isControl c || c = '\\' then none else prepend (some c) (readBasic rest)

/-- Reads up to a single quote. -/
def readLiteral : List Char → Option (List Char × List Char)
  | [] => none
  | '\'' :: rest => some ([], rest)
  | c :: rest => if isControl c then none else prepend (some c) (readLiteral rest)

/-- Reads up to three double quotes.  While `folding`, behind a backslash at the
end of a line, blanks and newlines are passed over. -/
def readLongBasic : (folding : Bool) → List Char → Option (List Char × List Char)
  | _, [] => none
  | true, ' ' :: rest => readLongBasic true rest
  | true, '\t' :: rest => readLongBasic true rest
  | true, '\n' :: rest => readLongBasic true rest
  | true, '\r' :: '\n' :: rest => readLongBasic true rest
  | _, '"' :: '"' :: '"' :: '"' :: '"' :: rest => some (['"', '"'], rest)
  | _, '"' :: '"' :: '"' :: '"' :: rest => some (['"'], rest)
  | _, '"' :: '"' :: '"' :: rest => some ([], rest)
  | _, '\\' :: 'u' :: a :: b :: c :: d :: rest =>
    prepend (codePoint? [a, b, c, d]) (readLongBasic false rest)
  | _, '\\' :: 'U' :: a :: b :: c :: d :: e :: f :: g :: h :: rest =>
    prepend (codePoint? [a, b, c, d, e, f, g, h]) (readLongBasic false rest)
  | _, '\\' :: c :: rest =>
    if (afterNewline? (skipSpace (c :: rest))).isSome then readLongBasic true (c :: rest)
    else prepend (escaped? c) (readLongBasic false rest)
  | _, '\n' :: rest => prepend (some '\n') (readLongBasic false rest)
  | _, '\r' :: '\n' :: rest => prepend (some '\n') (readLongBasic false rest)
  | _, c :: rest =>
    if isControl c || c = '\\' then none else prepend (some c) (readLongBasic false rest)

/-- Reads up to three single quotes. -/
def readLongLiteral : List Char → Option (List Char × List Char)
  | [] => none
  | '\'' :: '\'' :: '\'' :: '\'' :: '\'' :: rest => some (['\'', '\''], rest)
  | '\'' :: '\'' :: '\'' :: '\'' :: rest => some (['\''], rest)
  | '\'' :: '\'' :: '\'' :: rest => some ([], rest)
  | '\n' :: rest => prepend (some '\n') (readLongLiteral rest)
  | '\r' :: '\n' :: rest => prepend (some '\n') (readLongLiteral rest)
  | c :: rest => if isControl c then none else prepend (some c) (readLongLiteral rest)

/-- Drops a newline at the start. -/
def dropNewline (s : List Char) : List Char :=
  (afterNewline? s).getD s

/-- Reads a quoted text in any form. -/
def readQuoted : List Char → Option (List Char × List Char)
  | '"' :: '"' :: '"' :: rest => readLongBasic false (dropNewline rest)
  | '"' :: rest => readBasic rest
  | '\'' :: '\'' :: '\'' :: rest => readLongLiteral (dropNewline rest)
  | '\'' :: rest => readLiteral rest
  | _ => none

/-! ### Writing -/

/-- Whether a character can only be written with an escape. -/
def needsEscape (c : Char) : Bool :=
  isControl c && c ≠ '\n'

/-- Whether the character occurs three times in a row; `seen` says how often it
has just occurred. -/
def hasTriple (quote : Char) : (seen : Nat) → List Char → Bool
  | _, [] => false
  | seen, c :: rest =>
    if c = quote then
      if seen = 2 then true else hasTriple quote (seen + 1) rest
    else hasTriple quote 0 rest

/-- The hexadecimal digit for a number below sixteen, in upper case. -/
def hexDigit (n : Nat) : Char :=
  (Nat.digitChar n).toUpper

/-- How a character other than a quote and a newline stands between double
quotes. -/
def escapeChar (c : Char) : List Char :=
  if c = '\\' then ['\\', '\\']
  else if c = '\x08' then ['\\', 'b']
  else if c = '\t' then ['\\', 't']
  else if c = '\x0c' then ['\\', 'f']
  else if c = '\r' then ['\\', 'r']
  else if isControl c then
    ['\\', 'u', '0', '0', hexDigit (c.toNat / 16), hexDigit (c.toNat % 16)]
  else [c]

/-- A text as it stands between double quotes on one line. -/
def escapeBasic (s : List Char) : List Char :=
  s.flatMap fun c => if c = '"' then ['\\', '"'] else escapeChar c

/-- A text as it stands between three double quotes: newlines stay, and so do
double quotes, except every third in a row; `seen` counts those in a row. -/
def escapeLongBasic : (seen : Nat) → List Char → List Char
  | _, [] => []
  | seen, c :: rest =>
    if c = '"' then
      if seen = 2 then '\\' :: '"' :: escapeLongBasic 0 rest
      else '"' :: escapeLongBasic (seen + 1) rest
    else if c = '\n' then '\n' :: escapeLongBasic 0 rest
    else escapeChar c ++ escapeLongBasic 0 rest

/-- Puts a text between delimiters of three quotes, on lines of its own if it
contains a newline. -/
def betweenTriples (quote : Char) (text inner : List Char) : List Char :=
  let delimiter := [quote, quote, quote]
  delimiter ++ (if text.contains '\n' then ['\n'] else []) ++ inner ++ delimiter

/-- A text in the first form that needs no escapes, or with escapes if all of
them do. -/
def quoteChars (s : List Char) : List Char :=
  let plain := !s.any needsEscape
  let oneLine := !s.contains '\n'
  if plain && oneLine && !s.contains '\\' && !s.contains '"' then
    '"' :: (escapeBasic s ++ ['"'])
  else if plain && oneLine && !s.contains '\'' then '\'' :: (s ++ ['\''])
  else if plain && !s.contains '\\' && !hasTriple '"' 0 s then
    betweenTriples '"' s (escapeLongBasic 0 s)
  else if plain && !hasTriple '\'' 0 s then betweenTriples '\'' s s
  else if oneLine then '"' :: (escapeBasic s ++ ['"'])
  else betweenTriples '"' s (escapeLongBasic 0 s)

/-- A text in quotes. -/
def quote (s : String) : String :=
  String.ofList (quoteChars s.toList)

end SqlNotebook.Toml
