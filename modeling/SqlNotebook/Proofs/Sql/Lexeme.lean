/-
SqlNotebook/Proofs/Sql/Lexeme.lean

Reading values in SQL.  A text is cut into values and into the marks that stand between them:

    (1,'it''s'),(2,NULL)     (  1  ,  'it''s'  )  ,  (  2  ,  NULL  )

A value is a word or a number, or a string in single quotes, in which two quotes stand for one.
The reader knows nothing of how values are written: it goes over the characters once, with what
it has read of the value it is in (`Mode`).

A text spells lexemes if they are what is read of it wherever it stands between marks (`Spells`).
Texts with a mark between them spell their lexemes with that mark between them (`Spells.mark`);
so it is enough to know what a word spells (`spells_word`) and what a string literal spells,
whatever characters are in it (`spells_literal`).
-/
import Mathlib.Data.List.Forall2
import SqlNotebook.HostValue

namespace SqlNotebook.Sql

/-! ### Lexemes -/

/-- A value as it stands in SQL. -/
inductive Literal
  | null
  /-- A word or a number. -/
  | bare (word : String)
  /-- A string with the given text. -/
  | quoted (text : String)
deriving DecidableEq, Repr

/-- The value that a word is. -/
def Literal.ofWord (word : List Char) : Literal :=
  if word = "NULL".toList then .null else .bare (String.ofList word)

/-- A value, or a mark between values. -/
inductive Lexeme
  | comma
  | opening
  | closing
  | value (literal : Literal)
deriving DecidableEq, Repr

/-- The mark that a character is. -/
def mark? : Char → Option Lexeme
  | ',' => some .comma
  | '(' => some .opening
  | ')' => some .closing
  | _ => none

/-- Whether a character can be part of a word. -/
def isWordChar (c : Char) : Bool :=
  c ≠ '\'' && (mark? c).isNone

/-- Where the reader stands, with what it has read of a value. -/
inductive Mode
  | between
  | word (read : List Char)
  | inside (read : List Char)
  /-- Behind a quote in a string, which closes the string unless another one follows. -/
  | atQuote (read : List Char)

namespace Mode

/-- The mode behind a character that belongs to a value. -/
def next? : Mode → Char → Option Mode
  | between, c =>
    if c = '\'' then some (inside []) else if isWordChar c then some (word [c]) else none
  | word read, c => if isWordChar c then some (word (read ++ [c])) else none
  | inside read, c => some (if c = '\'' then atQuote read else inside (read ++ [c]))
  | atQuote read, c => if c = '\'' then some (inside (read ++ [c])) else none

/-- What has been read where a mark or the end of the text follows.  A string that is not closed
is nothing. -/
def finish? : Mode → Option (List Lexeme)
  | between => some []
  | word read => some [.value (.ofWord read)]
  | inside _ => none
  | atQuote read => some [.value (.quoted (String.ofList read))]

end Mode

/-- Reads what is left of a text. -/
def lexFrom : Mode → List Char → Option (List Lexeme)
  | mode, [] => mode.finish?
  | mode, c :: rest =>
    match mode.next? c with
    | some mode => lexFrom mode rest
    | none => do
      let finished ← mode.finish?
      let mark ← mark? c
      let more ← lexFrom .between rest
      return finished ++ mark :: more

/-- The lexemes of a text, if it has no others than values and marks between them. -/
def lex? (text : String) : Option (List Lexeme) :=
  lexFrom .between text.toList

variable {mode : Mode} {finished lexemes more : List Lexeme} {lexeme : Lexeme} {c : Char}
  {s t read : List Char}

theorem isWordChar_iff : isWordChar c ↔ c ∉ ['\'', ',', '(', ')'] := by
  by_cases hquote : c = '\''
  · simp [isWordChar, hquote]
  · rw [isWordChar, mark?.eq_def]
    split <;> simp_all

/-- A mark ends what stands in front of it. -/
theorem lexFrom_mark (hmode : mode.finish? = some finished) (hmark : mark? c = some lexeme)
    (rest : List Char) :
    lexFrom mode (c :: rest) = (lexFrom .between rest).map (finished ++ lexeme :: ·) := by
  have hquote : c ≠ '\'' := by
    rintro rfl
    cases hmark
  have hword : ¬ isWordChar c := by simp [isWordChar, hmark]
  have hnext : mode.next? c = none := by
    cases mode with
    | between => rw [Mode.next?, if_neg hquote, if_neg hword]
    | word read => rw [Mode.next?, if_neg hword]
    | inside read => cases hmode
    | atQuote read => rw [Mode.next?, if_neg hquote]
  rw [lexFrom, hnext]
  simp only [hmode, hmark]
  rcases lexFrom .between rest with - | more <;> rfl

theorem lexFrom_word (h : s.all isWordChar) (rest : List Char) :
    lexFrom (.word read) (s ++ rest) = lexFrom (.word (read ++ s)) rest := by
  induction s generalizing read with
  | nil => rw [List.nil_append, List.append_nil]
  | cons c s ih =>
    rw [List.all_cons, Bool.and_eq_true] at h
    rw [List.cons_append, lexFrom, Mode.next?, if_pos h.1]
    show lexFrom (.word (read ++ [c])) (s ++ rest) = _
    rw [ih h.2, List.append_assoc, List.singleton_append]

/-- Doubled quotes are read as quotes, and everything else in a string as it is. -/
theorem lexFrom_doubleQuotes (rest : List Char) :
    lexFrom (.inside read) (HostValue.doubleQuotes s ++ rest) =
      lexFrom (.inside (read ++ s)) rest := by
  induction s generalizing read with
  | nil =>
    rw [List.append_nil]
    rfl
  | cons c s ih =>
    have hstep : lexFrom (.inside read) (HostValue.doubleQuotes (c :: s) ++ rest) =
        lexFrom (.inside (read ++ [c])) (HostValue.doubleQuotes s ++ rest) := by
      rw [HostValue.doubleQuotes, List.flatMap_cons, List.append_assoc]
      by_cases hc : c = '\''
      · -- the first of the two quotes could close the string, and the second one goes on with it
        rw [if_pos hc, hc]
        rfl
      · rw [if_neg hc, List.singleton_append, lexFrom, Mode.next?, if_neg hc]
        rfl
    rw [hstep, ih, List.append_assoc, List.singleton_append]

/-! ### Texts that spell lexemes -/

/-- A text is read as the given lexemes, whatever mark stands behind it. -/
def Spells (s : List Char) (lexemes : List Lexeme) : Prop :=
  ∃ mode front finished, lexemes = front ++ finished ∧ Mode.finish? mode = some finished ∧
    ∀ rest, lexFrom .between (s ++ rest) = (lexFrom mode rest).map (front ++ ·)

/-- Reading a text that spells lexemes finds them. -/
theorem Spells.lex?_eq {text : String} (h : Spells text.toList lexemes) :
    lex? text = some lexemes := by
  obtain ⟨mode, front, finished, rfl, hfinish, hread⟩ := h
  rw [lex?, ← List.append_nil text.toList, hread, lexFrom, hfinish, Option.map_some]

theorem spells_nil : Spells [] [] :=
  ⟨.between, [], [], rfl, rfl, fun _ => Option.map_id'.symm⟩

/-- Texts with a mark between them spell what they spell by themselves, with that mark. -/
theorem Spells.mark (hs : Spells s lexemes) (hmark : mark? c = some lexeme) (ht : Spells t more) :
    Spells (s ++ c :: t) (lexemes ++ lexeme :: more) := by
  obtain ⟨mode, front, finished, rfl, hfinish, hread⟩ := hs
  obtain ⟨last, between, ended, rfl, hlast, hmore⟩ := ht
  -- the mark finishes the first text; what is not finished yet is the end of the second one
  refine ⟨last, front ++ finished ++ lexeme :: between, ended, by simp, hlast, fun rest => ?_⟩
  rw [List.append_assoc, List.cons_append, hread, lexFrom_mark hfinish hmark, hmore,
    Option.map_map, Option.map_map]
  refine congrArg (Option.map · _) (funext fun found => ?_)
  simp

/-- A word spells the value that it is. -/
theorem spells_word (hne : s ≠ []) (h : s.all isWordChar) :
    Spells s [.value (.ofWord s)] := by
  obtain ⟨c, s, rfl⟩ := List.exists_cons_of_ne_nil hne
  refine ⟨.word (c :: s), [], _, rfl, rfl, fun rest => ?_⟩
  rw [List.all_cons, Bool.and_eq_true] at h
  have hquote : c ≠ '\'' := by
    rintro rfl
    exact absurd h.1 (by decide)
  rw [List.cons_append, lexFrom, Mode.next?, if_neg hquote, if_pos h.1]
  show lexFrom (.word [c]) (s ++ rest) = _
  rw [lexFrom_word h.2]
  exact Option.map_id'.symm

/-- A word other than `NULL` spells itself. -/
theorem spells_bare {word : String} (hne : word.toList ≠ []) (h : word.toList.all isWordChar)
    (hnull : word ≠ "NULL") : Spells word.toList [.value (.bare word)] := by
  have hword : Literal.ofWord word.toList = .bare word := by
    rw [Literal.ofWord, if_neg (mt String.toList_inj.mp hnull), String.ofList_toList]
  rw [← hword]
  exact spells_word hne h

/-- A string literal spells the string with its text. -/
theorem spells_literal (text : String) :
    Spells (HostValue.literal text).toList [.value (.quoted text)] := by
  refine ⟨.atQuote text.toList, [], [.value (.quoted text)], rfl, ?_, fun rest => ?_⟩
  · rw [Mode.finish?, String.ofList_toList]
  · rw [HostValue.literal, String.toList_ofList, List.cons_append, List.append_assoc]
    show lexFrom (.inside []) (HostValue.doubleQuotes text.toList ++ ('\'' :: rest)) = _
    rw [lexFrom_doubleQuotes]
    exact Option.map_id'.symm

/-- Texts with commas between them. -/
theorem spells_join {parts : List String} {groups : List (List Lexeme)}
    (h : List.Forall₂ (fun part group => Spells part.toList group) parts groups) :
    Spells (Text.join "," parts).toList ([.comma].intercalate groups) := by
  rw [Text.toList_join]
  induction h with
  | nil => exact spells_nil
  | @cons part group parts groups hpart hparts ih =>
    cases hparts with
    | nil =>
      rw [List.map_singleton, List.intercalate_singleton, List.intercalate_singleton]
      exact hpart
    | cons hnext hrest =>
      rw [List.map_cons, List.map_cons, List.intercalate_cons_cons, List.intercalate_cons_cons,
        List.append_assoc, List.append_assoc]
      exact hpart.mark rfl ih

/-! ### Values with commas between them -/

/-- Values with commas between them. -/
def commaSeparated (literals : List Literal) : List Lexeme :=
  [.comma].intercalate (literals.map fun literal => [.value literal])

theorem commaSeparated_cons_cons (literal next : Literal) (rest : List Literal) :
    commaSeparated (literal :: next :: rest) =
      .value literal :: .comma :: commaSeparated (next :: rest) := by
  rw [commaSeparated, List.map_cons, List.map_cons, List.intercalate_cons_cons]
  rfl

theorem spells_commaSeparated {parts : List String} {literals : List Literal}
    (h : List.Forall₂ (fun part literal => Spells part.toList [.value literal]) parts literals) :
    Spells (Text.join "," parts).toList (commaSeparated literals) :=
  spells_join (List.forall₂_map_right_iff.mpr h)

end SqlNotebook.Sql
