/-
SqlNotebook/Json/Printer.lean

Writing documents, on one line without blanks or on several lines.
-/
import SqlNotebook.Decimal.Layout
import SqlNotebook.Json.Basic
import SqlNotebook.Text.Blank

namespace SqlNotebook

/-- The text of a number. -/
def JsonNumber.render : JsonNumber → String
  | .integer value => toString value
  | .real value => value.compact?.getD "null"

namespace Json

/-- The lower-case hexadecimal digit for a number below sixteen. -/
def hexDigit (n : Nat) : Char :=
  Nat.digitChar n

/-- How a character stands in a quoted text: quotes, backslashes and control
characters are escaped, and nothing else is. -/
def escapeChar (c : Char) : List Char :=
  if c = '"' then ['\\', '"']
  else if c = '\\' then ['\\', '\\']
  else if c = '\x08' then ['\\', 'b']
  else if c = '\x0c' then ['\\', 'f']
  else if c = '\n' then ['\\', 'n']
  else if c = '\r' then ['\\', 'r']
  else if c = '\t' then ['\\', 't']
  else if c.toNat < 0x20 then
    ['\\', 'u', '0', '0', hexDigit (c.toNat / 16), hexDigit (c.toNat % 16)]
  else [c]

/-- A text in quotes. -/
def quote (text : String) : String :=
  String.ofList ('"' :: (text.toList.flatMap escapeChar ++ ['"']))

mutual

/-- The document on one line. -/
def render : Json → String
  | .null => "null"
  | .boolean value => if value then "true" else "false"
  | .number value => value.render
  | .text value => quote value
  | .array items => "[" ++ Text.join "," (renderItems items) ++ "]"
  | .object members => "\x7b" ++ Text.join "," (renderMembers members) ++ "\x7d"

/-- The items of an array, each on one line. -/
def renderItems : List Json → List String
  | [] => []
  | item :: rest => item.render :: renderItems rest

/-- The members of an object, each on one line. -/
def renderMembers : List (String × Json) → List String
  | [] => []
  | (name, value) :: rest => (quote name ++ ":" ++ value.render) :: renderMembers rest

end

/-- Lays the parts of an array or an object out, one a line, between brackets. -/
def layOut (opening closing : String) (depth : Nat) (parts : List String) : String :=
  let newline (depth : Nat) := "\n" ++ String.ofList (List.replicate (2 * depth) ' ')
  if parts.isEmpty then opening ++ closing
  else
    opening ++ newline (depth + 1) ++ Text.join ("," ++ newline (depth + 1)) parts ++
      newline depth ++ closing

mutual

/-- The document on several lines, of which all but the first are indented by
two blanks for each of the `depth` brackets around it. -/
def renderPretty (depth : Nat) : Json → String
  | .null => "null"
  | .boolean value => if value then "true" else "false"
  | .number value => value.render
  | .text value => quote value
  | .array items => layOut "[" "]" depth (renderPrettyItems (depth + 1) items)
  | .object members => layOut "\x7b" "\x7d" depth (renderPrettyMembers (depth + 1) members)

/-- The items of an array on several lines each. -/
def renderPrettyItems (depth : Nat) : List Json → List String
  | [] => []
  | item :: rest => item.renderPretty depth :: renderPrettyItems depth rest

/-- The members of an object on several lines each. -/
def renderPrettyMembers (depth : Nat) : List (String × Json) → List String
  | [] => []
  | (name, value) :: rest =>
    (quote name ++ ": " ++ value.renderPretty depth) :: renderPrettyMembers depth rest

end

/-- The document on several lines. -/
def pretty (document : Json) : String :=
  document.renderPretty 0

end Json

end SqlNotebook
