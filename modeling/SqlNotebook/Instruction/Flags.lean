/-
SqlNotebook/Instruction/Flags.lean

The flags in front of an instruction.  A flag starts with a minus sign and ends
at the next space.  Any flag may be given; those that mean something have a
short and a long form.
-/
import SqlNotebook.Text.Blank

namespace SqlNotebook

namespace Flags

/-- Reads flags up to the first character that is neither a space nor part of a
flag; `pending` is what has been read of a flag. -/
def splitChars : (pending : Option (List Char)) → List Char → List String × List Char
  | none, [] => ([], [])
  | some flag, [] => ([String.ofList flag], [])
  | none, c :: rest =>
    if c = ' ' then splitChars none rest
    else if c = '-' then splitChars (some ['-']) rest
    else ([], c :: rest)
  | some flag, c :: rest =>
    if c = ' ' then
      let (flags, rest) := splitChars none rest
      (String.ofList flag :: flags, rest)
    else splitChars (some (flag ++ [c])) rest

/-- Takes the flags off the front of a text.  Gives the text behind them, without
blanks in front, and the flags. -/
def split (text : String) : String × List String :=
  let (flags, rest) := splitChars none text.toList
  (String.ofList (Chars.trimStart rest), flags)

/-- What is left to read of a flag. -/
theorem splitChars_some {letters : List Char} (hletters : ' ' ∉ letters) (pending : List Char)
    (s : List Char) :
    splitChars (some pending) letters = ([String.ofList (pending ++ letters)], []) ∧
      splitChars (some pending) (letters ++ ' ' :: s) =
        (String.ofList (pending ++ letters) :: (splitChars none s).1, (splitChars none s).2) := by
  induction letters generalizing pending with
  | nil =>
    rw [List.append_nil, List.nil_append, splitChars, splitChars]
    exact ⟨rfl, rfl⟩
  | cons c letters ih =>
    rw [List.mem_cons, not_or] at hletters
    have hspace : c ≠ ' ' := Ne.symm hletters.1
    obtain ⟨hend, hmore⟩ := ih hletters.2 (pending ++ [c])
    rw [List.append_assoc, List.singleton_append] at hend hmore
    rw [List.cons_append, splitChars, if_neg hspace, splitChars, if_neg hspace]
    exact ⟨hend, hmore⟩

end Flags

/-- A flag that means something. -/
inductive Flag
  /-- Shows all rows. -/
  | all
  /-- Shows the SQL that is sent. -/
  | echo
  /-- Leaves messages out. -/
  | quiet
  /-- Shows the first column as documents. -/
  | documents
  /-- Shows the rows as they are. -/
  | raw
  /-- Ends statements with `@`. -/
  | delimiter
  /-- Explains the instructions. -/
  | help
deriving DecidableEq, Repr

/-- The short and the long form of a flag. -/
def Flag.forms : Flag → List String
  | all => ["-a", "-all"]
  | echo => ["-e", "-echo"]
  | quiet => ["-q", "-quiet"]
  | documents => ["-j", "-json"]
  | raw => ["-r", "-array"]
  | delimiter => ["-d", "-delim"]
  | help => ["-h", "-help"]

end SqlNotebook
