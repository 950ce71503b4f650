/-
SqlNotebook/Proofs/Macro/Evaluation.lean

Evaluating the body of a macro line by line.  A body is taken apart at its lines, each of which
goes on, returns or gives up, and at its `if` lines, each of which compares a value with fixed
text.

Most lines are neither: they are fixed text and go into the output as they are, or are passed
over.  Such a line is a `Literal`, with any variables, and so a whole list of them is one step
(`eval_literals`).
-/
import SqlNotebook.Proofs.Macro.Block
import SqlNotebook.Proofs.Macro.Nesting
import SqlNotebook.Proofs.Token.Slots

namespace SqlNotebook.Macro

variable {g next : Gathered} {raw message : String} {depth : Nat} {rest : Block}

/-! ### Lines of fixed text -/

/-- The tokens of a line that is fixed text are the same with any variables. -/
theorem tokens_of_fixed (g : Gathered) {raw : String}
    (fixed : '{' ∉ (Token.slots (Text.trim raw).toList).flatten) :
    g.tokens raw = Token.split (Text.trim raw) := by
  refine Token.splitWith_congr fun slot hslot => ?_
  refine Placeholder.expand_of_not_mem g.scope fun hbrace => fixed ?_
  rw [String.toList_ofList] at hbrace
  exact List.mem_flatten.2 ⟨slot, hslot, hbrace⟩

/-- A line that is fixed text says the same with any variables. -/
theorem runLine_of_fixed (g : Gathered) (raw : String)
    (runs : State.passesOver (Text.trim raw) = false)
    (fixed : '{' ∉ (Token.slots (Text.trim raw).toList).flatten) :
    g.runLine raw =
      g.carryOut (Text.trim raw) (Directive.ofTokens (Token.split (Text.trim raw))) := by
  rw [Gathered.runLine, if_neg (by simp [runs]), tokens_of_fixed g fixed]

/-- The line is passed over, or it is fixed text without a directive. -/
def Literal (raw : String) : Prop :=
  State.passesOver (Text.trim raw) = true ∨
    '{' ∉ (Text.trim raw).toList ∧ Directive.ofTokens (Token.split (Text.trim raw)) = .text

instance : DecidablePred Literal := fun raw =>
  inferInstanceAs (Decidable (State.passesOver (Text.trim raw) = true ∨
    '{' ∉ (Text.trim raw).toList ∧ Directive.ofTokens (Token.split (Text.trim raw)) = .text))

theorem Literal.kind_eq (h : Literal raw) : LineKind.ofToken? (firstToken? raw) = .ordinary := by
  rw [firstToken?]
  rcases h with hover | ⟨-, htext⟩
  · rw [if_pos hover]
    rfl
  · split
    · rfl
    · rw [← Directive.kind_ofTokens, htext]
      rfl

theorem Literal.fixed (h : Literal raw) : ∀ token ∈ firstToken? raw, '{' ∉ token.toList := by
  intro token htoken
  rw [firstToken?] at htoken
  split at htoken
  · cases htoken
  · rename_i hruns
    have hbrace : '{' ∉ (Text.trim raw).toList := (h.resolve_left hruns).1
    exact Token.not_mem_of_mem_split hbrace (by decide) (List.mem_of_head? htoken)

/-- A literal line of a block. -/
def Literal.line (h : Literal raw) : Line .ordinary :=
  ⟨raw, h.kind_eq, h.fixed⟩

/-- Adds lines to the output. -/
def Gathered.write (g : Gathered) (lines : List String) : Gathered :=
  { g with output := g.output ++ lines }

@[simp] theorem write_nil (g : Gathered) : g.write [] = g := by
  simp [Gathered.write]

@[simp] theorem write_write (g : Gathered) (lines more : List String) :
    (g.write lines).write more = g.write (lines ++ more) := by
  simp [Gathered.write]

/-- What literal lines put into the output. -/
def literalOutput (raws : List String) : List String :=
  (raws.map Text.trim).filter fun line => !State.passesOver line

theorem Literal.runLine (h : Literal raw) (g : Gathered) :
    g.runLine raw = .through (g.write (literalOutput [raw])) := by
  rcases hover : State.passesOver (Text.trim raw) with - | -
  · obtain ⟨hbrace, htext⟩ := h.resolve_left (by simp [hover])
    have hfixed : '{' ∉ (Token.slots (Text.trim raw).toList).flatten := by
      intro hmem
      obtain ⟨slot, hslot, hc⟩ := List.mem_flatten.mp hmem
      exact hbrace (Token.mem_of_mem_slots hslot hc)
    rw [runLine_of_fixed g raw hover hfixed, htext, Gathered.carryOut,
      Placeholder.expand_of_not_mem g.scope hbrace]
    simp [Gathered.write, literalOutput, hover]
  · simp [Gathered.runLine, Gathered.write, literalOutput, hover]

/-- A block that starts with literal lines. -/
def Block.literals : (raws : List String) → (∀ raw ∈ raws, Literal raw) → Block → Block
  | [], _, rest => rest
  | raw :: raws, h, rest =>
    .line (h raw List.mem_cons_self).line
      (.literals raws (fun other hother => h other (List.mem_cons_of_mem raw hother)) rest)

/-! ### How a line ends -/

variable {kind : LineKind.ofToken? (firstToken? raw) = .ordinary}
  {fixed : ∀ token ∈ firstToken? raw, '{' ∉ token.toList}

/-- A block goes on behind a line that does not end the macro. -/
theorem eval_line_of_through (h : g.runLine raw = .through next) :
    (Block.line ⟨raw, kind, fixed⟩ rest).eval depth g = rest.eval depth next := by
  rw [Block.eval, h]
  rfl

/-- **Literal lines are one step**: they only add to the output. -/
theorem eval_literals (raws : List String) (h : ∀ raw ∈ raws, Literal raw) (g : Gathered) :
    (Block.literals raws h rest).eval depth g =
      rest.eval depth (g.write (literalOutput raws)) := by
  induction raws generalizing g with
  | nil => simp [Block.literals, Gathered.write, literalOutput]
  | cons raw raws ih =>
    have hsplit : literalOutput (raw :: raws) = literalOutput [raw] ++ literalOutput raws := by
      simp only [literalOutput, List.map_cons, ← List.filter_append]
      rfl
    rw [Block.literals, Literal.line, eval_line_of_through ((h raw List.mem_cons_self).runLine g),
      ih, hsplit, write_write]

/-! ### Lines with a placeholder -/

/-- A line is text if its first token is fixed and no keyword, whatever its placeholders stand
for. -/
theorem directive_of_word {word : String} {words : List String}
    (htokens : g.tokens raw = (word :: words).map (Placeholder.expand g.scope))
    (hfixed : '{' ∉ word.toList) (htext : ∀ others, Directive.ofTokens (word :: others) = .text) :
    Directive.ofTokens (g.tokens raw) = .text := by
  rw [htokens, List.map_cons, Placeholder.expand_of_not_mem g.scope hfixed]
  exact htext _

/-- A line of text with one placeholder. -/
theorem runLine_of_braces {before inner behind : List Char} {value : String}
    (hdirective : Directive.ofTokens (g.tokens raw) = .text)
    (hruns : State.passesOver (Text.trim raw) = false)
    (hline : (Text.trim raw).toList = before ++ '{' :: (inner ++ '}' :: behind))
    (hbefore : '{' ∉ before) (hinner : '}' ∉ inner) (hbehind : '{' ∉ behind)
    (hvalue : Placeholder.expandBraces g.scope inner = .ok value) :
    g.runLine raw =
      .through (g.write [String.ofList before ++ value ++ String.ofList behind]) := by
  have hexpand := Placeholder.expand_of_braces g.scope hline hbefore hinner hbehind hvalue
  rw [Gathered.runLine, if_neg (by simp [hruns]), hdirective, Gathered.carryOut, hexpand]
  rfl

/-! ### Lines of several bodies -/

theorem kind_flagsLine : LineKind.ofToken? (firstToken? "flags -a") = .ordinary := rfl

theorem fixed_flagsLine : ∀ token ∈ firstToken? "flags -a", '{' ∉ token.toList := by decide

def flagsLine : Line .ordinary :=
  ⟨"flags -a", kind_flagsLine, fixed_flagsLine⟩

theorem runLine_flagsLine (g : Gathered) :
    g.runLine flagsLine.raw = .through { g with flags := g.flags ++ ["-a"] } :=
  runLine_of_fixed g flagsLine.raw rfl (by decide)

theorem literal_blank : ∀ raw ∈ [""], Literal raw := by decide

/-- A blank line does nothing. -/
theorem eval_blank (g : Gathered) (rest : Block) :
    (Block.literals [""] literal_blank rest).eval depth g = rest.eval depth g := by
  have hskipped : literalOutput [""] = [] := by decide
  rw [eval_literals, hskipped, write_nil]

theorem kind_elseLine : LineKind.ofToken? (firstToken? "else") = .otherwise := rfl

theorem fixed_elseLine : ∀ token ∈ firstToken? "else", '{' ∉ token.toList := by decide

def elseLine : Line .otherwise :=
  ⟨"else", kind_elseLine, fixed_elseLine⟩

theorem kind_endifLine : LineKind.ofToken? (firstToken? "endif") = .closeIf := rfl

theorem fixed_endifLine : ∀ token ∈ firstToken? "endif", '{' ∉ token.toList := by decide

def endifLine : Line .closeIf :=
  ⟨"endif", kind_endifLine, fixed_endifLine⟩

theorem kind_returnLine : LineKind.ofToken? (firstToken? "return") = .ordinary := rfl

theorem fixed_returnLine : ∀ token ∈ firstToken? "return", '{' ∉ token.toList := by decide

def returnLine : Line .ordinary :=
  ⟨"return", kind_returnLine, fixed_returnLine⟩

theorem runLine_returnLine (g : Gathered) : g.runLine returnLine.raw = .returned g :=
  runLine_of_fixed g returnLine.raw rfl (by decide)

theorem kind_exitLine :
    LineKind.ofToken? (firstToken? "exit \x7bsyntax\x7d") = .ordinary := rfl

theorem fixed_exitLine :
    ∀ token ∈ firstToken? "exit \x7bsyntax\x7d", '{' ∉ token.toList := by decide

/-- Gives up with the message that has been stored as `syntax`. -/
def syntaxExitLine : Line .ordinary :=
  ⟨"exit \x7bsyntax\x7d", kind_exitLine, fixed_exitLine⟩

theorem runLine_syntaxExitLine (hstored : g.scope.get? "syntax" = some message) :
    g.runLine syntaxExitLine.raw = .exited (g.notify (.error message)) := by
  have htokens : g.tokens syntaxExitLine.raw =
      ["exit", "\x7bsyntax\x7d"].map (Placeholder.expand g.scope) := rfl
  have hexit : Placeholder.expand g.scope "exit" = "exit" :=
    Placeholder.expand_of_not_mem g.scope (by decide)
  have hvalue : Placeholder.expand g.scope "\x7bsyntax\x7d" = message :=
    Placeholder.expand_of_value g.scope rfl (by decide) rfl hstored
  rw [Gathered.runLine, if_neg (by decide), htokens, List.map_cons, List.map_cons, hexit, hvalue]
  simp [Directive.ofTokens, Gathered.carryOut, Text.join]

/-! ### Indented lines -/

/-- A line behind the given number of spaces. -/
def indented (indent : Nat) (line : String) : String :=
  String.ofList (List.replicate indent ' ') ++ line

theorem trim_indented (indent : Nat) (line : String) :
    Text.trim (indented indent line) = Text.trim line := by
  have hspaces : (List.replicate indent ' ').all Chars.isBlank := by
    rw [List.all_eq_true]
    intro c hc
    rw [List.eq_of_mem_replicate hc]
    decide
  rw [← String.toList_inj, Text.toList_trim, Text.toList_trim, indented, String.toList_append,
    String.toList_ofList, Chars.trim_blanks_append hspaces]

theorem firstToken?_indented (indent : Nat) (line : String) :
    firstToken? (indented indent line) = firstToken? line := by
  rw [firstToken?, firstToken?, trim_indented]

theorem Line.kind_indent {kind : LineKind} (line : Line kind) (indent : Nat) :
    LineKind.ofToken? (firstToken? (indented indent line.raw)) = kind := by
  rw [firstToken?_indented, line.kind_eq]

theorem Line.fixed_indent {kind : LineKind} (line : Line kind) (indent : Nat) :
    ∀ token ∈ firstToken? (indented indent line.raw), '{' ∉ token.toList := by
  rw [firstToken?_indented]
  exact line.fixed

/-- The same line behind spaces. -/
def Line.indent {kind : LineKind} (line : Line kind) (indent : Nat) : Line kind :=
  ⟨indented indent line.raw, line.kind_indent indent, line.fixed_indent indent⟩

/-- Spaces in front of a line do not matter. -/
theorem runLine_indent (line : Line .ordinary) (indent : Nat) (g : Gathered) :
    g.runLine (line.indent indent).raw = g.runLine line.raw := by
  show g.runLine (indented indent line.raw) = g.runLine line.raw
  rw [Gathered.runLine, Gathered.runLine, Gathered.tokens, Gathered.tokens, trim_indented]

theorem eval_return (g : Gathered) (indent : Nat) (rest : Block) :
    (Block.line (returnLine.indent indent) rest).eval depth g = .ok (.returned g) := by
  rw [Block.eval, runLine_indent, runLine_returnLine]
  rfl

theorem eval_exit (hstored : g.scope.get? "syntax" = some message) (indent : Nat) (rest : Block) :
    (Block.line (syntaxExitLine.indent indent) rest).eval depth g =
      .ok (.exited (g.notify (.error message))) := by
  rw [Block.eval, runLine_indent, runLine_syntaxExitLine hstored]
  rfl

/-! ### Conditions -/

/-- An `if` line that compares a value with fixed text. -/
theorem test_of_value {left operator right value other : String} {comparison : Comparison}
    (hdepth : depth < maxDepth)
    (htokens : g.tokens raw = ["if", left, operator, right].map (Placeholder.expand g.scope))
    (hleft : Placeholder.expand g.scope left = value) (hfixed : '{' ∉ operator.toList)
    (hoperator : Comparison.ofOperator? operator = some comparison) (hright : '{' ∉ right.toList)
    (hother : unquote right = other) :
    g.test depth raw = .ok (comparison.holds value other, g) := by
  have hexpanded : (g.tokens raw).tail = [value, operator, right] := by
    rw [htokens, ← hleft]
    simp [Placeholder.expand_of_not_mem g.scope hfixed, Placeholder.expand_of_not_mem g.scope hright]
  rw [Gathered.test, if_neg (by omega), hexpanded]
  simp [Condition.ofTokens?, Gathered.judge, hoperator, hother]

theorem test_equal {left right value other : String} (hdepth : depth < maxDepth)
    (htokens : g.tokens raw = ["if", left, "==", right].map (Placeholder.expand g.scope))
    (hleft : Placeholder.expand g.scope left = value) (hright : '{' ∉ right.toList)
    (hother : unquote right = other) :
    g.test depth raw = .ok (decide (value = other), g) :=
  test_of_value hdepth htokens hleft (by decide) rfl hright hother

variable {opens : LineKind.ofToken? (firstToken? raw) = .openIf} {body other : Block}
  {middle : Line .otherwise} {closing : Line .closeIf} {p : Prop} [Decidable p]

theorem eval_ifThen (h : g.test depth raw = .ok (decide p, next)) :
    (Block.ifThen ⟨raw, opens, fixed⟩ body closing rest).eval depth g =
      if p then followedBy (body.eval (depth + 1) next) (rest.eval depth)
      else rest.eval depth next := by
  rw [Block.eval, h]
  by_cases hp : p
  · rw [decide_eq_true hp, if_pos hp]
  · rw [decide_eq_false hp, if_neg hp]

theorem eval_ifElse (h : g.test depth raw = .ok (decide p, next)) :
    (Block.ifElse ⟨raw, opens, fixed⟩ body middle other closing rest).eval depth g =
      followedBy (if p then body.eval (depth + 1) next else other.eval (depth + 1) next)
        (rest.eval depth) := by
  rw [Block.eval, h]
  by_cases hp : p
  · rw [decide_eq_true hp, if_pos hp]
  · rw [decide_eq_false hp, if_neg hp]

end SqlNotebook.Macro

namespace SqlNotebook.MacroTable

open Macro

variable {instruction name : String} {body : List String} {block : Block} {expansion : Expansion}

theorem expand_of_run (table : MacroTable)
    (hcalled : table.called? instruction = some ⟨name, body⟩)
    (hrun : State.run { scope := (Call.ofInstruction instruction).scope } body = .ok expansion) :
    table.expand instruction = .ok expansion := by
  rw [table.expand_of_called hcalled]
  show Except.mapError _ (State.run { scope := (Call.ofInstruction instruction).scope } body) = _
  rw [hrun]
  rfl

/-- A macro whose body is the lines of a block. -/
theorem expand_of_lines (table : MacroTable)
    (hcalled : table.called? instruction = some ⟨name, body⟩) (hlines : block.lines = body)
    (hrun : block.expansion (Call.ofInstruction instruction).scope = .ok expansion) :
    table.expand instruction = .ok expansion := by
  refine table.expand_of_run hcalled ?_
  rw [← hlines, run_block, hrun]

end SqlNotebook.MacroTable
