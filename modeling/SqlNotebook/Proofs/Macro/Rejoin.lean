/-
SqlNotebook/Proofs/Macro/Rejoin.lean

Handing on the instruction that has called a macro.  The placeholder `{*0}` stands for all tokens
of the instruction, joined by spaces:

    t  'a  b'  (c         has the tokens    t, null, 'a  b', null, (c
                          and `{*0}` is     t null 'a  b' null (c

The instruction is not the same, but its tokens are (`split_join_split`), even if the last one
leaves a quote or a parenthesis open.  So a macro that consists of this line hands on a call of
the same macro with the same variables (`expand_rejoined`).

The line is text unless the joined tokens are a directive, and they are one only if the
instruction is nothing but the word for it (`directive_of_rejoined`).
-/
import SqlNotebook.Proofs.Macro.Evaluation
import SqlNotebook.Proofs.Macro.Numbered

namespace SqlNotebook

/-- The placeholder for all tokens of a call. -/
theorem Placeholder.expand_allTokens {tokens : List String} (h : tokens.length < UInt64.size) :
    expand (Scope.ofTokens tokens) "\x7b*0\x7d" = Text.join " " tokens := by
  have hbraces : expandBraces (Scope.ofTokens tokens) ['*', '0'] =
      .ok (Text.join " " tokens) := expand_joined_ofTokens h " "
  exact expand_of_request _ rfl (by decide) hbraces

namespace Macro

/-- Joined tokens are no directive, unless they are the single word for one. -/
theorem directive_of_rejoined {line : String}
    (h : 2 ≤ (Token.split line).length ∨ Directive.ofTokens (Token.split line) = .text) :
    Directive.ofTokens [Text.join " " (Token.split line)] = .text := by
  rcases htokens : Token.split line with - | ⟨word, - | ⟨next, words⟩⟩
  · rfl
  · rw [htokens] at h
    have hword : Directive.ofTokens [word] = .text := h.resolve_left (by simp)
    simpa [Text.join] using hword
  · -- a word for a directive has one token
    have hkeyword (keyword : String) (hjoin : Text.join " " (word :: next :: words) = keyword) :
        2 ≤ (Token.split keyword).length := by
      rw [← hjoin, ← htokens, Token.split_join_split, htokens]
      simp
    simp only [Directive.ofTokens]
    split <;> rename_i hjoin <;> first | rfl | exact absurd (hkeyword _ hjoin) (by decide)

/-- The line with all tokens writes them, if they are no directive when they are joined. -/
theorem step_allTokens {g : Gathered} {branches : Branches} {text : String}
    (hactive : branches.active = true) (hvalue : Placeholder.expand g.scope "\x7b*0\x7d" = text)
    (htext : Directive.ofTokens [text] = .text) :
    (g.state branches).step "\x7b*0\x7d" = .ok (.next ((g.write [text]).state branches)) := by
  have htokens : g.tokens "\x7b*0\x7d" = [text] := by
    rw [← hvalue]
    rfl
  have htrim : Text.trim "\x7b*0\x7d" = "\x7b*0\x7d" := by decide
  rw [step_of_runs (by decide), htokens, htext, perform_of_active hactive _ rfl, htrim,
    Gathered.carryOut, hvalue]
  rfl

/-- A macro that consists of this line. -/
theorem run_allTokens {scope : Scope} {text : String}
    (hvalue : Placeholder.expand scope "\x7b*0\x7d" = text)
    (htext : Directive.ofTokens [text] = .text) :
    State.run { scope } ["\x7b*0\x7d"] = .ok { text, expanded := true } := by
  let g : Gathered := { scope }
  have hstep : (g.state .start).step "\x7b*0\x7d" =
      .ok (.next ((g.write [text]).state .start)) := step_allTokens rfl hvalue htext
  have hjoin : Text.join "\n" [text] = text := by simp [Text.join]
  have hfinish : ((g.write [text]).state .start).finish = { text, expanded := true } := by
    simp [State.finish, Gathered.state, Gathered.write, g, hjoin]
  show (g.state .start).run ["\x7b*0\x7d"] = _
  rw [run_of_next hstep, ← hfinish]
  rfl

end Macro

namespace MacroTable

open Macro

/-- The macro that an instruction calls is known from its tokens. -/
theorem called?_eq (table : MacroTable) (instruction : String) :
    table.called? instruction = (Call.ofInstruction instruction).name?.bind table.get? := by
  rcases hname : (Call.ofInstruction instruction).name? with - | name
  · rw [called?, hname]
    split <;> rfl
  · exact called?_of_name? table hname

/-- **Joined tokens make the same call.**  Tokens that are joined by spaces are cut into the same
tokens again.  In the scope of a call they are what `{*0}` stands for; so a macro that consists
of this line hands on the joined tokens, and whatever is called by them is the same, with the
same variables.  The length of a line that fits into memory is a machine word, like the numbers
of its tokens. -/
theorem expand_rejoined (line : String) :
    let rejoined := Text.join " " (Token.split line)
    Token.split rejoined = Token.split line ∧
      Call.ofInstruction rejoined = Call.ofInstruction line ∧
      (∀ table : MacroTable, table.called? rejoined = table.called? line) ∧
      (line.length < UInt64.size →
        Placeholder.expand (Scope.ofTokens (Token.split line)) "\x7b*0\x7d" = rejoined ∧
          ∀ (table : MacroTable) (name : String),
            table.called? line = some ⟨name, ["\x7b*0\x7d"]⟩ →
              (2 ≤ (Token.split line).length ∨ Directive.ofTokens (Token.split line) = .text) →
              table.expand line = .ok { text := rejoined, expanded := true }) := by
  intro rejoined
  have hsplit : Token.split rejoined = Token.split line := Token.split_join_split line
  have hcall : Call.ofInstruction rejoined = Call.ofInstruction line := congrArg Call.mk hsplit
  refine ⟨hsplit, hcall, fun table => ?_, fun hline => ?_⟩
  · rw [called?_eq, called?_eq, hcall]
  · have hvalue : Placeholder.expand (Scope.ofTokens (Token.split line)) "\x7b*0\x7d" = rejoined :=
      Placeholder.expand_allTokens (Nat.lt_of_le_of_lt (Token.length_split_le line) hline)
    refine ⟨hvalue, fun table name hcalled hword => table.expand_of_run hcalled ?_⟩
    exact run_allTokens hvalue (directive_of_rejoined hword)

/-- An instruction with a tab, blanks in a row and in quotes, and an open parenthesis. -/
def openBlockLine : String :=
  "  t\ta  'b  c' (d 'e "

/-- A macro that hands on the instruction. -/
def rejoiningTable : MacroTable :=
  MacroTable.add Dictionary.empty ⟨"T", ["\x7b*0\x7d"]⟩

theorem expand_rejoined_openBlock :
    openBlockLine.length < UInt64.size ∧
      rejoiningTable.called? openBlockLine = some ⟨"T", ["\x7b*0\x7d"]⟩ ∧
      2 ≤ (Token.split openBlockLine).length ∧
      rejoiningTable.expand openBlockLine =
        .ok { text := "t a null 'b  c' (d 'e ", expanded := true } ∧
      Token.split "t a null 'b  c' (d 'e " = Token.split openBlockLine := by
  have hline : openBlockLine.length < UInt64.size := by decide
  have hcalled : rejoiningTable.called? openBlockLine = some ⟨"T", ["\x7b*0\x7d"]⟩ := rfl
  have htokens : 2 ≤ (Token.split openBlockLine).length := by decide
  have hjoin : Text.join " " (Token.split openBlockLine) = "t a null 'b  c' (d 'e " := by decide
  obtain ⟨hsplit, -, -, hexpand⟩ := expand_rejoined openBlockLine
  have htext := (hexpand hline).2 rejoiningTable "T" hcalled (.inl htokens)
  rw [hjoin] at hsplit htext
  exact ⟨hline, hcalled, htokens, htext, hsplit⟩

end MacroTable

end SqlNotebook
