/-
SqlNotebook/Statement.lean

The statements of a cell.  Comments start with `--` outside of quotes and run to
the end of their line; the lines that are left are put behind one another, and
the text is cut at every delimiter outside of quotes.
-/
import SqlNotebook.Text.Blank
import SqlNotebook.Text.Quote

namespace SqlNotebook.Statement

/-- The part of a line in front of its comment. -/
def stripLine : QuoteState → List Char → List Char
  | _, [] => []
  | none, '-' :: '-' :: _ => []
  | quote, c :: rest => c :: stripLine (quote.next c) rest

/-- The lines of a text without their comments.  Quotes are looked for in each
line by itself. -/
def stripComments (text : String) : String :=
  let lines := (Chars.lines text.toList).map (stripLine none)
  String.ofList (['\n'].intercalate lines)

/-- Whether a statement ends at a character. -/
def ends (delimiter : Char) (quote : QuoteState) (c : Char) : Bool :=
  quote.isNone && !isQuote c && c = delimiter

/-- The statements of a text.  Blank ones are left out. -/
def split (text : String) (delimiter : Char) : List String :=
  let folded := Text.trim (Text.foldNewlines (stripComments text))
  let pieces := Chars.scanPieces QuoteState.next (ends delimiter) none folded.toList
  (pieces.map fun piece => String.ofList (Chars.trim piece)).filter (· ≠ "")

end SqlNotebook.Statement
