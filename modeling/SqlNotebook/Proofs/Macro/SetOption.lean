/-
SqlNotebook/Proofs/Macro/SetOption.lean

What becomes of a `SET` statement.  The built-in `SET` turns the ones for its options into
`OPTION` instructions and hands on every other one:

    SET THREADS 4                 OPTION THREADS 4
    SET CURRENT SCHEMA = APP      SET CURRENT SCHEMA = APP
    SET CURRENT  SCHEMA = APP     SET CURRENT null SCHEMA = APP

What it hands on are the tokens of the statement, joined by spaces.  An empty slot has become a
token by then; so the statement is the same up to its separators exactly if it has no empty slot
in front of its last one (`expand_set`).

The last lines of the body are not those of a block: whether the line with the joined tokens is
a directive depends on the tokens.  It never is, since a directive would be one token, and the
first token is `SET` in upper case.
-/
import SqlNotebook.Macro.Builtin
import SqlNotebook.Proofs.Macro.Rejoin
import SqlNotebook.Settings.Basic

namespace SqlNotebook

namespace Macro

open Placeholder (upperArgument upperArgument_eq_iff)

/-! ### Options -/

/-- An option with a number. -/
inductive NumberOption
  | threads
  | maxRows
  | maxGrid
deriving DecidableEq, Repr

/-- The name of an option, as `SET` compares it. -/
def NumberOption.name : NumberOption → String
  | .threads => "THREADS"
  | .maxRows => "MAXROWS"
  | .maxGrid => "MAXGRID"

/-- What `SET` turns into an `OPTION` instruction. -/
inductive OptionForm
  | display (mode : DisplayMode)
  | number (option : NumberOption)
deriving DecidableEq, Repr

namespace OptionForm

/-- How the arguments of such a statement start, in upper case. -/
def words : OptionForm → List String
  | .display mode => ["DISPLAY", mode.name]
  | .number option => [option.name]

/-- The instruction that a statement with the given arguments is turned into. -/
def instruction (arguments : List String) : OptionForm → String
  | .display mode => "OPTION DISPLAY " ++ mode.name
  | .number option =>
    "OPTION " ++ option.name ++ " " ++ arguments[1]?.getD Placeholder.unresolved

end OptionForm

variable {arguments : List String}

theorem display_prefix_iff (mode : DisplayMode) :
    (OptionForm.display mode).words <+: arguments.map Text.upper ↔
      upperArgument arguments 0 = "DISPLAY" ∧ upperArgument arguments 1 = mode.name := by
  have hmode : mode.name ≠ Placeholder.unresolved := by cases mode <;> decide
  rw [upperArgument_eq_iff (by decide), upperArgument_eq_iff hmode, OptionForm.words]
  rcases arguments.map Text.upper with - | ⟨first, - | ⟨second, rest⟩⟩
  · simp
  · simp
  · simp [eq_comm]

theorem number_prefix_iff (option : NumberOption) :
    (OptionForm.number option).words <+: arguments.map Text.upper ↔
      upperArgument arguments 0 = option.name := by
  have hname : option.name ≠ Placeholder.unresolved := by cases option <;> decide
  rw [upperArgument_eq_iff hname, OptionForm.words]
  rcases arguments.map Text.upper with - | ⟨first, rest⟩
  · simp
  · simp [eq_comm]

/-! ### The body of `SET` -/

/-- The part for the display mode. -/
def displayPart (rest : Block) : Block :=
  .ifThen ⟨"if \x7b^1\x7d == 'DISPLAY'", by decide, by decide⟩
    (.ifElse ⟨"    if \x7b^2\x7d == \"TABLE\"", by decide, by decide⟩
      (.literals ["        OPTION DISPLAY TABLE"] (by decide) <| .line (returnLine.indent 8) .done)
      (elseLine.indent 4)
      (.ifThen ⟨"        if \x7b^2\x7d == \"JSON\"", by decide, by decide⟩
        (.literals ["            OPTION DISPLAY JSON"] (by decide) <|
          .line (returnLine.indent 12) .done)
        (endifLine.indent 8) .done)
      (endifLine.indent 4) .done)
    endifLine rest

namespace NumberOption

/-- Looks whether the option is the one that is set. -/
def gate (option : NumberOption) : String :=
  "if \x7b^1\x7d == '" ++ option.name ++ "'"

/-- The instruction for the option. -/
def line (option : NumberOption) : String :=
  "    OPTION " ++ option.name ++ " \x7b2\x7d"

theorem kind_gate (option : NumberOption) :
    LineKind.ofToken? (firstToken? option.gate) = .openIf := by
  cases option <;> decide

theorem fixed_gate (option : NumberOption) :
    ∀ token ∈ firstToken? option.gate, '{' ∉ token.toList := by
  cases option <;> decide

theorem kind_line (option : NumberOption) :
    LineKind.ofToken? (firstToken? option.line) = .ordinary := by
  cases option <;> decide

theorem fixed_line (option : NumberOption) :
    ∀ token ∈ firstToken? option.line, '{' ∉ token.toList := by
  cases option <;> decide

/-- The part for an option. -/
def part (option : NumberOption) (rest : Block) : Block :=
  .literals [""] literal_blank <|
    .ifThen ⟨option.gate, option.kind_gate, option.fixed_gate⟩
      (.line ⟨option.line, option.kind_line, option.fixed_line⟩ <|
        .line (returnLine.indent 4) .done)
      endifLine rest

end NumberOption

/-- The part of the body that looks at the arguments. -/
def optionBlock : Block :=
  .literals [""] literal_blank <| displayPart <| NumberOption.threads.part <|
    NumberOption.maxRows.part <| NumberOption.maxGrid.part <| .literals [""] literal_blank .done

theorem lines_optionBlock : optionBlock.lines ++ ["\x7b*0\x7d", "return"] = setBody := by decide

theorem get?_builtins_set : builtins.get? "SET" = some ⟨"SET", setBody⟩ := by
  simp only [builtins, List.foldl, MacroTable.add, Dictionary.get?_set, if_true]

/-! ### Options in the body -/

variable {g : Gathered}

theorem expand_first (h : g.scope.OfArguments arguments) :
    Placeholder.expand g.scope "\x7b^1\x7d" = upperArgument arguments 0 :=
  Placeholder.expand_upper h 0 ['^', '1'] rfl (by decide) rfl

theorem expand_second (h : g.scope.OfArguments arguments) :
    Placeholder.expand g.scope "\x7b^2\x7d" = upperArgument arguments 1 :=
  Placeholder.expand_upper h 1 ['^', '2'] rfl (by decide) rfl

/-- The end of a statement for an option. -/
def optionEnding (g : Gathered) (arguments : List String) (form : OptionForm) : Ending :=
  .returned (g.write [form.instruction arguments])

theorem eval_displayPart (h : g.scope.OfArguments arguments) (rest : Block) :
    (displayPart rest).eval 0 g =
      if upperArgument arguments 0 = "DISPLAY" ∧
          upperArgument arguments 1 = DisplayMode.table.name then
        .ok (optionEnding g arguments (.display .table))
      else if upperArgument arguments 0 = "DISPLAY" ∧
          upperArgument arguments 1 = DisplayMode.json.name then
        .ok (optionEnding g arguments (.display .json))
      else rest.eval 0 g := by
  have hdisplayTokens : g.tokens "if \x7b^1\x7d == 'DISPLAY'" =
      ["if", "\x7b^1\x7d", "==", "'DISPLAY'"].map (Placeholder.expand g.scope) := rfl
  have hdisplay : g.test 0 "if \x7b^1\x7d == 'DISPLAY'" =
      .ok (decide (upperArgument arguments 0 = "DISPLAY"), g) :=
    test_equal (by decide) hdisplayTokens (expand_first h) (by decide) (by decide)
  have htableTokens : g.tokens "    if \x7b^2\x7d == \"TABLE\"" =
      ["if", "\x7b^2\x7d", "==", "\"TABLE\""].map (Placeholder.expand g.scope) := rfl
  have htable : g.test 1 "    if \x7b^2\x7d == \"TABLE\"" =
      .ok (decide (upperArgument arguments 1 = DisplayMode.table.name), g) :=
    test_equal (by decide) htableTokens (expand_second h) (by decide) (by decide)
  have hjsonTokens : g.tokens "        if \x7b^2\x7d == \"JSON\"" =
      ["if", "\x7b^2\x7d", "==", "\"JSON\""].map (Placeholder.expand g.scope) := rfl
  have hjson : g.test 2 "        if \x7b^2\x7d == \"JSON\"" =
      .ok (decide (upperArgument arguments 1 = DisplayMode.json.name), g) :=
    test_equal (by decide) hjsonTokens (expand_second h) (by decide) (by decide)
  have htableOutput : literalOutput ["        OPTION DISPLAY TABLE"] = ["OPTION DISPLAY TABLE"] := by
    decide
  have hjsonOutput : literalOutput ["            OPTION DISPLAY JSON"] = ["OPTION DISPLAY JSON"] := by
    decide
  rw [displayPart, eval_ifThen hdisplay, eval_ifElse htable, eval_ifThen hjson, eval_literals,
    eval_literals, htableOutput, hjsonOutput, eval_return, eval_return]
  by_cases hdisplays : upperArgument arguments 0 = "DISPLAY"
  · simp only [hdisplays, true_and, if_true]
    split_ifs <;> rfl
  · simp only [hdisplays, false_and, if_false]

namespace NumberOption

variable (option : NumberOption)

theorem tokens_gate (g : Gathered) : g.tokens option.gate =
    ["if", "\x7b^1\x7d", "==", "'" ++ option.name ++ "'"].map (Placeholder.expand g.scope) := by
  cases option <;> rfl

theorem tokens_line (g : Gathered) : g.tokens option.line =
    ["OPTION", option.name, "\x7b2\x7d"].map (Placeholder.expand g.scope) := by
  cases option <;> rfl

/-- The instruction for an option shows the argument behind its name. -/
theorem runLine_line (h : g.scope.OfArguments arguments) :
    g.runLine option.line =
      .through (g.write [(OptionForm.number option).instruction arguments]) := by
  have hdirective := directive_of_word (option.tokens_line g) (by decide) fun _ => rfl
  have hruns : State.passesOver (Text.trim option.line) = false := by cases option <;> decide
  have hvalue : Placeholder.expandBraces g.scope ['2'] =
      .ok (arguments[1]?.getD Placeholder.unresolved) := by
    rw [← h.numbered 1]
    rfl
  have hline : (Text.trim option.line).toList =
      ("OPTION " ++ option.name ++ " ").toList ++ '{' :: (['2'] ++ '}' :: "".toList) := by
    cases option <;> decide
  have hname : '{' ∉ ("OPTION " ++ option.name ++ " ").toList := by cases option <;> decide
  have hrun := runLine_of_braces hdirective hruns hline hname (by decide) (by decide) hvalue
  rwa [String.ofList_toList, String.ofList_toList, String.append_empty] at hrun

theorem eval_part (h : g.scope.OfArguments arguments) (rest : Block) :
    (option.part rest).eval 0 g =
      if upperArgument arguments 0 = option.name then
        .ok (optionEnding g arguments (.number option))
      else rest.eval 0 g := by
  have hquoted : '{' ∉ ("'" ++ option.name ++ "'").toList := by cases option <;> decide
  have hunquoted : unquote ("'" ++ option.name ++ "'") = option.name := by cases option <;> decide
  have hgate : g.test 0 option.gate = .ok (decide (upperArgument arguments 0 = option.name), g) :=
    test_equal (by decide) (option.tokens_gate g) (expand_first h) hquoted hunquoted
  rw [part, eval_blank, eval_ifThen hgate, eval_line_of_through (option.runLine_line h),
    eval_return]
  rfl

end NumberOption

theorem eval_optionBlock (h : g.scope.OfArguments arguments) :
    optionBlock.eval 0 g =
      .ok (if upperArgument arguments 0 = "DISPLAY" ∧
          upperArgument arguments 1 = DisplayMode.table.name then
        optionEnding g arguments (.display .table)
      else if upperArgument arguments 0 = "DISPLAY" ∧
          upperArgument arguments 1 = DisplayMode.json.name then
        optionEnding g arguments (.display .json)
      else if upperArgument arguments 0 = NumberOption.threads.name then
        optionEnding g arguments (.number .threads)
      else if upperArgument arguments 0 = NumberOption.maxRows.name then
        optionEnding g arguments (.number .maxRows)
      else if upperArgument arguments 0 = NumberOption.maxGrid.name then
        optionEnding g arguments (.number .maxGrid)
      else .through g) := by
  rw [optionBlock, eval_blank, eval_displayPart h, NumberOption.eval_part _ h,
    NumberOption.eval_part _ h, NumberOption.eval_part _ h, eval_blank]
  split_ifs <;> rfl

/-- A statement for an option returns with the instruction. -/
theorem eval_optionBlock_of_form (h : g.scope.OfArguments arguments) {form : OptionForm}
    (hform : form.words <+: arguments.map Text.upper) :
    optionBlock.eval 0 g = .ok (optionEnding g arguments form) := by
  rw [eval_optionBlock h]
  cases form with
  | display mode =>
    obtain ⟨hfirst, hsecond⟩ := (display_prefix_iff mode).mp hform
    cases mode <;> simp [hfirst, hsecond, DisplayMode.name]
  | number option =>
    have hfirst := (number_prefix_iff option).mp hform
    cases option <;> simp [hfirst, NumberOption.name]

/-- Any other statement goes through. -/
theorem eval_optionBlock_of_not (h : g.scope.OfArguments arguments)
    (hother : ∀ form : OptionForm, ¬ form.words <+: arguments.map Text.upper) :
    optionBlock.eval 0 g = .ok (.through g) := by
  have hdisplay (mode : DisplayMode) : ¬ (upperArgument arguments 0 = "DISPLAY" ∧
      upperArgument arguments 1 = mode.name) :=
    mt (display_prefix_iff mode).mpr (hother (.display mode))
  have hnumber (option : NumberOption) : ¬ upperArgument arguments 0 = option.name :=
    mt (number_prefix_iff option).mpr (hother (.number option))
  rw [eval_optionBlock h, if_neg (hdisplay .table), if_neg (hdisplay .json),
    if_neg (hnumber .threads), if_neg (hnumber .maxRows), if_neg (hnumber .maxGrid)]

/-! ### The statement that is handed on -/

/-- The tokens of a statement that starts with `SET` are no directive when they are joined. -/
theorem directive_of_joined {line : String}
    (hname : (Token.split line).head?.map Text.upper = some "SET") :
    Directive.ofTokens [Text.join " " (Token.split line)] = .text := by
  -- a directive is one token, which would be the only one of the statement
  have hkeyword (keyword : String) (h : Text.join " " (Token.split line) = keyword) :
      (Token.split keyword).head?.map Text.upper = some "SET" := by
    rw [← h, Token.split_join_split, hname]
  simp only [Directive.ofTokens]
  split <;> rename_i h <;> first | rfl | exact absurd (hkeyword _ h) (by decide)

/-- The last lines write the joined tokens and return. -/
theorem run_joined {branches : Branches} {line : String} (hactive : branches.active = true)
    (hname : (Token.split line).head?.map Text.upper = some "SET")
    (hvalue : Placeholder.expand g.scope "\x7b*0\x7d" = Text.join " " (Token.split line)) :
    (g.state branches).run ["\x7b*0\x7d", "return"] =
      .ok (Ending.returned (g.write [Text.join " " (Token.split line)])).expansion := by
  rw [run_of_next (step_allTokens hactive hvalue (directive_of_joined hname))]
  show (Gathered.state _ branches).run [returnLine.raw] = _
  rw [run_ordinary returnLine hactive, runLine_returnLine]
  rfl

/-! ### The whole body -/

variable {scope : Scope}

theorem run_setBody {next : Gathered → Except Fault Expansion}
    (hrest : ∀ g' other, optionBlock.eval 0 { scope } = .ok (.through g') →
      other.Agrees .start → (g'.state other).run ["\x7b*0\x7d", "return"] = next g') :
    State.run { scope } setBody = resume (optionBlock.eval 0 { scope }) next := by
  rw [← lines_optionBlock]
  exact run_lines optionBlock ⟨rfl, rfl, rfl⟩ hrest

theorem run_setBody_of_form (h : scope.OfArguments arguments) {form : OptionForm}
    (hform : form.words <+: arguments.map Text.upper) :
    State.run { scope } setBody =
      .ok { text := form.instruction arguments, expanded := true } := by
  have heval : optionBlock.eval 0 { scope } = .ok (optionEnding { scope } arguments form) :=
    eval_optionBlock_of_form h hform
  -- the lines behind the options are not run
  have hrun : State.run { scope } setBody =
      resume (optionBlock.eval 0 { scope }) fun _ => .error .unmatched := by
    refine run_setBody fun g' other hthrough _ => ?_
    rw [heval] at hthrough
    cases hthrough
  rw [hrun, heval]
  rfl

theorem run_setBody_of_not (h : scope.OfArguments arguments)
    (hother : ∀ form : OptionForm, ¬ form.words <+: arguments.map Text.upper) {line : String}
    (hname : (Token.split line).head?.map Text.upper = some "SET")
    (hvalue : Placeholder.expand scope "\x7b*0\x7d" = Text.join " " (Token.split line)) :
    State.run { scope } setBody =
      .ok { text := Text.join " " (Token.split line), expanded := true } := by
  have heval : optionBlock.eval 0 { scope } = .ok (.through { scope }) :=
    eval_optionBlock_of_not h hother
  have hrun : State.run { scope } setBody = resume (optionBlock.eval 0 { scope }) fun g =>
      .ok (Ending.returned (g.write [Text.join " " (Token.split line)])).expansion := by
    refine run_setBody fun g' other hthrough hagrees => ?_
    -- the options have gathered nothing
    rw [heval] at hthrough
    cases hthrough
    exact run_joined hagrees.active hname hvalue
  rw [hrun, heval]
  rfl

end Macro

namespace MacroTable

open Macro

section Expand

variable (table : MacroTable) {instruction : String}
  (hbuiltin : table.get? "SET" = builtins.get? "SET")
  (hname : (Call.ofInstruction instruction).name? = some "SET")

include hbuiltin hname

theorem called?_of_set : table.called? instruction = some ⟨"SET", setBody⟩ := by
  rw [called?_of_name? table hname, hbuiltin, get?_builtins_set]

/-- A statement for an option becomes the instruction for it. -/
theorem expand_of_setOption {form : OptionForm}
    (hform : form.words <+: (Call.ofInstruction instruction).tokens.tail.map Text.upper) :
    table.expand instruction =
      .ok { text := form.instruction (Call.ofInstruction instruction).tokens.tail
            expanded := true } :=
  table.expand_of_run (table.called?_of_set hbuiltin hname)
    (run_setBody_of_form (Scope.ofArguments_ofTokens _) hform)

/-- The tokens of any other statement are handed on. -/
theorem expand_of_setOther (hsize : (Call.ofInstruction instruction).tokens.length < UInt64.size)
    (hother : ∀ form : OptionForm,
      ¬ form.words <+: (Call.ofInstruction instruction).tokens.tail.map Text.upper) :
    table.expand instruction =
      .ok { text := Text.join " " (Call.ofInstruction instruction).tokens, expanded := true } := by
  have hvalue := Placeholder.expand_allTokens hsize
  exact table.expand_of_run (table.called?_of_set hbuiltin hname)
    (run_setBody_of_not (Scope.ofArguments_ofTokens _) hother hname hvalue)

/-- **What becomes of a `SET` statement.**  It is expanded without flags and notices, and the
macro never gives up.  A statement for an option becomes the instruction for it; any other one
is handed on, and is the same up to its separators exactly if none of its slots in front of the
last one is empty. -/
theorem expand_set (hsize : (Call.ofInstruction instruction).tokens.length < UInt64.size) :
    let tokens := (Call.ofInstruction instruction).tokens
    ∃ text, table.expand instruction = .ok { text, expanded := true } ∧
      (∀ form : OptionForm, form.words <+: tokens.tail.map Text.upper →
        text = form.instruction tokens.tail) ∧
      ((∀ form : OptionForm, ¬ form.words <+: tokens.tail.map Text.upper) →
        text = Text.join " " tokens ∧
          (Token.squeeze text = Token.squeeze instruction ↔
            ∀ slot ∈ (Token.slots instruction.toList).dropLast, slot ≠ [])) := by
  intro tokens
  by_cases hforms : ∃ form : OptionForm, form.words <+: tokens.tail.map Text.upper
  · obtain ⟨form, hform⟩ := hforms
    have hexpand := table.expand_of_setOption hbuiltin hname hform
    refine ⟨_, hexpand, fun other hother => ?_, fun hnone => absurd hform (hnone form)⟩
    rw [table.expand_of_setOption hbuiltin hname hother] at hexpand
    exact (congrArg Expansion.text (Except.ok.inj hexpand)).symm
  · have hnone := not_exists.mp hforms
    refine ⟨_, table.expand_of_setOther hbuiltin hname hsize hnone,
      fun form hform => absurd hform (hnone form), fun _ => ⟨rfl, ?_⟩⟩
    exact Token.squeeze_join_split_iff instruction

end Expand

/-- A name in lower case, and blanks in quotes. -/
def quotedBlanks : String :=
  "set V\t= 'a  b'"

theorem expand_set_quotedBlanks :
    (Call.ofInstruction quotedBlanks).name? = some "SET" ∧
      (Call.ofInstruction quotedBlanks).tokens.length < UInt64.size ∧
      builtins.expand quotedBlanks = .ok { text := "set V = 'a  b'", expanded := true } ∧
      Token.squeeze "set V = 'a  b'" = Token.squeeze quotedBlanks := by
  have hname : (Call.ofInstruction quotedBlanks).name? = some "SET" := rfl
  have hsize : (Call.ofInstruction quotedBlanks).tokens.length < UInt64.size := by decide
  have hother (form : OptionForm) :
      ¬ form.words <+: (Call.ofInstruction quotedBlanks).tokens.tail.map Text.upper := by
    rcases form with (_ | _) | (_ | _ | _) <;> decide
  have hslots : ∀ slot ∈ (Token.slots quotedBlanks.toList).dropLast, slot ≠ [] := by decide
  obtain ⟨text, hexpand, -, hkept⟩ := expand_set builtins rfl hname hsize
  obtain ⟨rfl, hsame⟩ := hkept hother
  exact ⟨hname, hsize, hexpand, hsame.mpr hslots⟩

/-- A statement with two blanks in a row. -/
def twoBlanks : String :=
  "SET CURRENT  SCHEMA APP"

/-- `SET` does not hand on every statement as it is: between two blanks it writes `null`. -/
theorem set_fills_emptySlot :
    ¬ ∀ instruction,
      (Call.ofInstruction instruction).name? = some "SET" →
        (∀ form : OptionForm,
          ¬ form.words <+: (Call.ofInstruction instruction).tokens.tail.map Text.upper) →
          ∃ text, builtins.expand instruction = .ok { text, expanded := true } ∧
            Token.squeeze text = Token.squeeze instruction := by
  intro hkept
  have hname : (Call.ofInstruction twoBlanks).name? = some "SET" := rfl
  have hother (form : OptionForm) :
      ¬ form.words <+: (Call.ofInstruction twoBlanks).tokens.tail.map Text.upper := by
    rcases form with (_ | _) | (_ | _ | _) <;> decide
  have hjoined : Text.join " " (Call.ofInstruction twoBlanks).tokens =
      "SET CURRENT null SCHEMA APP" := by decide
  obtain ⟨text, hexpand, hsame⟩ := hkept twoBlanks hname hother
  rw [expand_of_setOther builtins rfl hname (by decide) hother, hjoined] at hexpand
  have htext : "SET CURRENT null SCHEMA APP" = text :=
    congrArg Expansion.text (Except.ok.inj hexpand)
  rw [← htext] at hsame
  exact absurd hsame (by decide)

end MacroTable

end SqlNotebook
