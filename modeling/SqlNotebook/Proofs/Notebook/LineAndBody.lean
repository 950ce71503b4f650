/-
SqlNotebook/Proofs/Notebook/LineAndBody.lean

SQL that is entered as the line of an instruction, and the same SQL as the body of a
cell.  Both come to a list of statements, which are run in the same way from the same
notebook:

    run text          =  runList (the statements of the folded text)
    run "" with text  =  runList (the statements of the text)

A line is folded before anything else is done to it, so it ends at its first comment;
the lines of a body have a comment each.  Where the two lists are the same, so are the
runs with all that they leave behind.
-/
import SqlNotebook.Proofs.Notebook.Cutoff
import SqlNotebook.Proofs.Statement.Folding

namespace SqlNotebook

/-! ### Reading a text without flags -/

/-- A text that starts with neither a blank nor a minus sign has no flags. -/
theorem Flags.split_of_head? {text : String}
    (hblank : ∀ c, text.toList.head? = some c → ¬ Chars.isBlank c)
    (hflag : text.toList.head? ≠ some '-') : split text = (text, []) := by
  have htext : splitChars none text.toList = ([], text.toList) := by
    rcases htext : text.toList with - | ⟨c, rest⟩
    · rfl
    · rw [htext] at hblank hflag
      have hspace : c ≠ ' ' := by
        rintro rfl
        exact hblank ' ' rfl (by decide)
      have hminus : c ≠ '-' := by
        rintro rfl
        exact hflag rfl
      rw [splitChars, if_neg hspace, if_neg hminus]
  rw [split, htext]
  dsimp only
  rw [Chars.trimStart_of_head? hblank, String.ofList_toList]

namespace Text

/-- A line as it is read. -/
def asLine (text : String) : String :=
  trim (foldNewlines text)

theorem toList_asLine (text : String) :
    (asLine text).toList = (trim text).toList.map Chars.unbroken := by
  rw [asLine, toList_trim, toList_foldNewlines, Chars.trim_map_unbroken, toList_trim]

end Text

/-! ### Folding a text that is SQL -/

namespace Chars

/-- A newline ends the first word as a space does. -/
theorem commandWord_map_unbroken (s : List Char) :
    commandWord (s.map unbroken) = commandWord s := by
  have hspace : isCommandSpace ∘ unbroken = isCommandSpace := comp_unbroken rfl
  have halpha : Char.isAlpha ∘ unbroken = Char.isAlpha := comp_unbroken rfl
  unfold commandWord
  rw [List.dropWhile_map, hspace]
  generalize s.dropWhile isCommandSpace = start
  dsimp only
  rw [List.dropWhile_map, halpha, List.takeWhile_map, halpha]
  have hword : (start.takeWhile Char.isAlpha).map unbroken = start.takeWhile Char.isAlpha := by
    refine map_unbroken_of_not_mem fun hnewline => ?_
    exact absurd (List.all_eq_true.mp List.all_takeWhile _ hnewline) (by decide)
  rcases hbehind : start.dropWhile Char.isAlpha with - | ⟨c, rest⟩
  · have hstart : start.takeWhile Char.isAlpha = start :=
      List.takeWhile_eq_self_iff.mpr (List.dropWhile_eq_nil_iff.mp hbehind)
    rw [hstart] at hword
    exact congrArg upperAscii hword
  · rw [List.map_cons]
    dsimp only
    rw [show isCommandSpace (unbroken c) = isCommandSpace c from congrFun hspace c, hword]

end Chars

namespace Instruction

/-- What is SQL by its first word is SQL whatever follows. -/
theorem eq_of_ofWord_sql {word text rest sql : String}
    (h : ofWord word text rest = .ok (.sql sql)) :
    sql = text ∧ ∀ other rest, ofWord word other rest = .ok (.sql other) := by
  unfold ofWord at h
  dsimp only at h
  split at h
  case h_9 =>
    cases h
    refine ⟨rfl, fun other rest => ?_⟩
    unfold ofWord
    dsimp only
    split
    case h_9 => rfl
    all_goals contradiction
  all_goals
    repeat' split at h
    all_goals cases h

/-- A text is SQL if its first word makes it so. -/
theorem ofText_of_word {text word : String} (htrim : Text.trim text = text) (hask : text ≠ "?")
    (hcommand : commandWord text = word) (hword : ∀ rest, ofWord word text rest = .ok (.sql text)) :
    ofText text = .ok (.sql text) := by
  rw [ofText]
  dsimp only
  rw [htrim, if_neg hask, hcommand]
  exact hword _

/-- A text that is SQL is so as a line. -/
theorem ofText_asLine {text sql : String} (h : ofText text = .ok (.sql sql)) :
    sql = Text.trim text ∧ Text.asLine text ≠ "?" ∧
      ofText (Text.asLine text) = .ok (.sql (Text.asLine text)) := by
  rw [ofText] at h
  dsimp only at h
  have hask : Text.trim text ≠ "?" := by
    intro hask
    rw [if_pos hask] at h
    cases h
  rw [if_neg hask] at h
  obtain ⟨hsql, hword⟩ := eq_of_ofWord_sql h
  have hline : Text.asLine text ≠ "?" := by
    intro hline
    refine hask (String.toList_injective ?_)
    have hchars := congrArg String.toList hline
    rw [Text.toList_asLine] at hchars
    obtain ⟨c, hc, hquestion⟩ := List.map_eq_singleton_iff.mp hchars
    rw [hc, Chars.eq_of_unbroken (by decide) hquestion]
    rfl
  have htrim : Text.trim (Text.asLine text) = Text.asLine text := by
    refine String.toList_injective ?_
    rw [Text.asLine, Text.toList_trim, Text.toList_trim, Chars.trim_trim]
  have hcommand : commandWord (Text.asLine text) = commandWord (Text.trim text) := by
    rw [commandWord, Text.toList_asLine, Chars.commandWord_map_unbroken, commandWord]
  refine ⟨hsql, hline, ?_⟩
  rw [ofText]
  dsimp only
  rw [htrim, if_neg hline, hcommand]
  exact hword _ _

end Instruction

/-! ### Statements in order -/

/-- Runs statements one after the other. -/
def Action.runList (database : Database) (statements : List String) : Action Response := do
  let session ← ensureConnected database
  runStatements database session {} statements

/-- An instruction that calls no macro stays as it is. -/
theorem MacroTable.expand_of_not_called {table : MacroTable} {instruction : String}
    (h : table.called? instruction = none) :
    table.expand instruction = .ok (.unchanged instruction) := by
  rw [expand, h]

namespace Notebook

variable (engine : Engine) (notebook : Notebook)

theorem run_runCell_eq_runList (database : Database) (sql : String) :
    (Action.runCell database sql).run notebook =
      (Action.runList database
        (Statement.split sql (if notebook.has .delimiter then '@' else ';'))).run notebook := by
  rw [Action.runCell, Action.runList, Action.run_bind, Action.run_bind]
  rcases hrun : (Action.ensureConnected database).run notebook with ⟨error | session, linked⟩
  · rfl
  · obtain ⟨source, calls, hlinked, -⟩ := Action.run_ensureConnected_of_ok hrun
    have hdelimiter : linked.has .delimiter = notebook.has .delimiter := by
      rw [hlinked]
      rfl
    dsimp only
    rw [Action.run_bind, Action.run_get]
    dsimp only
    rw [hdelimiter]

theorem perform_of_sql (body : Option String) (text sql : String) :
    perform engine body (.asks text (.sql sql) [], notebook) =
      (Action.runCell engine.database (if sql = "" then body.getD "" else sql)).run notebook := by
  dsimp only [perform, Action.perform]
  generalize (Action.runCell engine.database (if sql = "" then body.getD "" else sql)).run notebook
    = ran
  obtain ⟨error | response, later⟩ := ran
  · rfl
  · rfl

/-- At the start of an instruction statements end with a semicolon. -/
theorem run_runCell_begin (sql : String) :
    (Action.runCell engine.database sql).run notebook.begin =
      (Action.runList engine.database (Statement.split sql ';')).run notebook.begin :=
  run_runCell_eq_runList notebook.begin engine.database sql

/-! ### The two routes -/

/-- A line without flags that calls no macro and is SQL asks for just that. -/
theorem entry_of_sql {line : String} {body : Option String}
    (hflags : Flags.split (Text.asLine line) = (Text.asLine line, []))
    (huncalled : notebook.macros.called? (Text.asLine line) = none)
    (hask : Text.asLine line ≠ "?") (hsome : ¬ (Text.asLine line = "" && body.isNone))
    (hsql : Instruction.ofText (Text.asLine line) = .ok (.sql (Text.asLine line))) :
    notebook.entry line body =
      (.asks (Text.asLine line) (.sql (Text.asLine line)) [], notebook.begin) := by
  have hexpand : notebook.begin.macros.expand (Text.asLine line) =
      .ok (.unchanged (Text.asLine line)) :=
    MacroTable.expand_of_not_called huncalled
  have hhelp : ¬ (Text.asLine line = "?" || notebook.begin.has .help) := by
    rw [decide_eq_false hask]
    exact Bool.false_ne_true
  unfold entry
  rw [← Text.asLine, hflags]
  dsimp only
  rw [notebook.begin.withFlags_nil, hexpand, entryOfExpansion,
    if_neg (show ¬ (Macro.Expansion.unchanged (Text.asLine line)).exited from Bool.false_ne_true),
    show (Macro.Expansion.unchanged (Text.asLine line)).text = Text.asLine line from rfl, hflags]
  dsimp only
  rw [notebook.begin.withFlags_nil, entryOfText, if_neg hhelp, if_neg hsome, hsql]
  rfl

/-- An empty line asks for the body of the cell. -/
theorem run_body {text : String} (htext : ¬ Text.isBlank text) :
    notebook.run engine "" (some text) =
      (Action.runCell engine.database text).run notebook.begin := by
  have hbody : givenBody (some text) = some text := by
    rw [givenBody, Option.filter_some, if_pos]
    rwa [Bool.not_eq_true', Bool.eq_false_iff]
  have hline : Text.asLine "" = "" := by
    decide +kernel
  have hsql : Instruction.ofText "" = .ok (.sql "") :=
    Instruction.ofText_of_word (by decide +kernel) (by decide)
      (show commandWord "" = "" by decide +kernel) fun _ => rfl
  have hentry : notebook.entry "" (some text) = (.asks "" (.sql "") [], notebook.begin) := by
    have hentry := @entry_of_sql notebook "" (some text)
    rw [hline] at hentry
    exact hentry (by decide +kernel) rfl (by decide) Bool.false_ne_true hsql
  rw [run_eq_perform, hbody, hentry, perform_of_sql engine notebook.begin (some text) "" "",
    if_pos rfl, Option.getD_some]

theorem run_line {text sql : String} (hflags : (Text.trim text).toList.head? ≠ some '-')
    (huncalled : notebook.macros.called? (Text.asLine text) = none)
    (hsql : Instruction.ofText text = .ok (.sql sql)) (hsome : sql ≠ "") :
    notebook.run engine text =
      (Action.runCell engine.database (Text.asLine text)).run notebook.begin := by
  obtain ⟨htrim, hask, hline⟩ := Instruction.ofText_asLine hsql
  have hempty : Text.asLine text ≠ "" := by
    intro hempty
    have hchars := congrArg String.toList hempty
    rw [Text.toList_asLine, ← htrim] at hchars
    exact hsome (String.toList_injective (List.map_eq_nil_iff.mp hchars))
  have hsplit : Flags.split (Text.asLine text) = (Text.asLine text, []) := by
    refine Flags.split_of_head? (fun c hc => ?_) fun hminus => hflags ?_
    · rw [Text.asLine, Text.toList_trim] at hc
      exact Chars.not_isBlank_of_head?_trim hc
    · rw [Text.toList_asLine, List.head?_map, Option.map_eq_some_iff] at hminus
      obtain ⟨c, hc, hminus⟩ := hminus
      rw [hc, Chars.eq_of_unbroken (by decide) hminus]
  have hbody : ¬ (Text.asLine text = "" && (none : Option String).isNone) := by
    rw [decide_eq_false hempty]
    exact Bool.false_ne_true
  rw [run_eq_perform, givenBody, Option.filter_none,
    entry_of_sql notebook hsplit huncalled hask hbody hline,
    perform_of_sql engine notebook.begin none, if_neg hempty]

/-- **SQL as a line and as a body.**  For a text that is SQL, has no flags in front and
calls no macro, both ways run a list of statements from the same notebook: as a line
those in front of its first comment, as a body those of its lines, each up to its comment.

Where no quoted region runs over the end of a line, the first list is the beginning of
the second one, but for its last statement, which may go on there; the runs are the same
in all that they do if nothing but blanks and comments follows the first comment.  They
are also the same if neither the text nor any line by itself has a comment. -/
theorem run_line_and_body (text sql : String)
    (hflags : (Text.trim text).toList.head? ≠ some '-')
    (huncalled : notebook.macros.called? (Text.asLine text) = none)
    (hsql : Instruction.ofText text = .ok (.sql sql)) (hsome : sql ≠ "") :
    let line := Statement.ofChars ';' (beforeComment text.toList)
    let body := Statement.ofChars ';' (Statement.strippedLines text.toList)
    notebook.run engine text = (Action.runList engine.database line).run notebook.begin ∧
      notebook.run engine "" (some text) =
        (Action.runList engine.database body).run notebook.begin ∧
      ('\r' ∉ text.toList →
        ((∀ part ∈ Part.cut (joinedLines text.toList), ¬ part.spansLines) →
          line.dropLast <+: body ∧
            ((behindComment (joinedLines text.toList)).all Chars.isBlank →
              notebook.run engine text = notebook.run engine "" (some text))) ∧
        ((∀ part ∈ Part.cut (joinedLines text.toList), part.stays) →
          (∀ line ∈ Chars.lines text.toList, ∀ part ∈ Part.cut line, part.stays) →
            notebook.run engine text = notebook.run engine "" (some text))) := by
  intro line body
  have hdelimiter : ¬ Chars.isBlank ';' := by
    decide
  have htext : ¬ Text.isBlank text := by
    intro hblank
    refine hsome ?_
    rw [(Instruction.ofText_asLine hsql).1]
    refine String.toList_injective ?_
    rw [Text.toList_trim, Chars.trim, Chars.trimStart_of_all hblank]
    rfl
  have hline : line = Statement.split (Text.asLine text) ';' :=
    (Statement.split_folded hdelimiter text).symm
  have hbody : body = Statement.split text ';' :=
    (Statement.split_unfolded hdelimiter text).symm
  rw [run_line engine notebook hflags huncalled hsql hsome, run_body engine notebook htext,
    run_runCell_begin, run_runCell_begin, hline, hbody]
  refine ⟨rfl, rfl, fun hreturn => ⟨fun hspans => ⟨?_, fun hbehind => ?_⟩, fun hwhole hlines => ?_⟩⟩
  · exact Statement.dropLast_split_folded_prefix hdelimiter hreturn hspans
  · rw [Text.asLine, Statement.split_folded_of_blank hdelimiter hreturn hspans hbehind]
  · rw [Text.asLine, Statement.split_folded_of_stays hdelimiter hreturn hwhole hlines]

/-- Two statements with a comment between them. -/
def commentedText : String :=
  "DELETE FROM A; -- first\nDELETE FROM B"

theorem ofText_commentedText : Instruction.ofText commentedText = .ok (.sql commentedText) :=
  Instruction.ofText_of_word (by decide +kernel) (by decide)
    (show commandWord commentedText = "DELETE" by decide +kernel) fun _ => rfl

/-- Two statements with a comment behind them. -/
def annotatedText : String :=
  "DELETE FROM A;\nDELETE FROM B -- last"

theorem run_line_and_body_commentedText :
    (Text.trim commentedText).toList.head? ≠ some '-' ∧
      fresh.macros.called? (Text.asLine commentedText) = none ∧
      Instruction.ofText commentedText = .ok (.sql commentedText) ∧ commentedText ≠ "" ∧
      fresh.run lossy commentedText =
        (Action.runList lossy.database ["DELETE FROM A"]).run fresh.begin ∧
      fresh.run lossy "" (some commentedText) =
        (Action.runList lossy.database ["DELETE FROM A", "DELETE FROM B"]).run fresh.begin ∧
      fresh.run lossy annotatedText = fresh.run lossy "" (some annotatedText) := by
  have hflags : (Text.trim commentedText).toList.head? ≠ some '-' := by
    decide +kernel
  have huncalled : fresh.macros.called? (Text.asLine commentedText) = none := by
    decide +kernel
  have hsome : commentedText ≠ "" := by
    decide
  obtain ⟨hline, hbody, -⟩ := run_line_and_body lossy fresh commentedText
    commentedText hflags huncalled ofText_commentedText hsome
  have hfirst : Statement.ofChars ';' (beforeComment commentedText.toList) =
      ["DELETE FROM A"] := by
    decide +kernel
  have hboth : Statement.ofChars ';' (Statement.strippedLines commentedText.toList) =
      ["DELETE FROM A", "DELETE FROM B"] := by
    decide +kernel
  rw [hfirst] at hline
  rw [hboth] at hbody
  have hannotated : Instruction.ofText annotatedText = .ok (.sql annotatedText) :=
    Instruction.ofText_of_word (by decide +kernel) (by decide)
      (show commandWord annotatedText = "DELETE" by decide +kernel) fun _ => rfl
  obtain ⟨-, -, hsame⟩ := run_line_and_body lossy fresh annotatedText
    annotatedText (by decide +kernel) (by decide +kernel) hannotated (by decide)
  have hequal := ((hsame (by decide +kernel)).1 (by decide +kernel)).2 (by decide +kernel)
  exact ⟨hflags, huncalled, ofText_commentedText, hsome, hline, hbody, hequal⟩

/-- A line ends at its first comment, where a body goes on in the next line. -/
theorem run_line_stops_at_comment :
    ¬ ∀ (engine : Engine) (notebook : Notebook) (text sql : String),
      text.toList.head? ≠ some '-' → notebook.macros.called? text = none →
      Instruction.ofText text = .ok (.sql sql) → sql ≠ "" →
      ((notebook.run engine text).2.history.filterMap Call.prepared?).map Text.words =
        ((notebook.run engine "" (some text)).2.history.filterMap Call.prepared?).map Text.words := by
  intro hsame
  have hprepared := hsame lossy fresh commentedText commentedText
    (by decide +kernel) (by decide +kernel) ofText_commentedText (by decide)
  have hline : (fresh.run lossy commentedText).2.history.filterMap
      Call.prepared? = ["DELETE FROM A"] := by
    decide +kernel
  have hbody : (fresh.run lossy "" (some commentedText)).2.history.filterMap
      Call.prepared? = ["DELETE FROM B", "DELETE FROM A"] := by
    decide +kernel
  rw [hline, hbody] at hprepared
  exact absurd (congrArg List.length hprepared) (by decide)

end Notebook

end SqlNotebook
