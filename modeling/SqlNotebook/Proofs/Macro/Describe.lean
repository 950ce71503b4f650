/-
SqlNotebook/Proofs/Macro/Describe.lean

Which statements the built-in `DESCRIBE` takes.  Its body compares the number of
arguments with two,

    if {argc} < 2
       exit {syntax}
    endif

but a comparison of operands is one of texts: it holds of every number whose
numeral starts with a one.  So `DESCRIBE` turns down ten to nineteen arguments, a
hundred to a hundred and ninety-nine, and so on, just as it turns down none or one
(`expand_describe`); every other number of arguments it takes.

The body is well nested, so that it is evaluated as a block; the numeral of the
number of arguments is the only thing that the evaluation depends on.
-/
import Mathlib.Tactic.IntervalCases
import SqlNotebook.Macro.Builtin
import SqlNotebook.Proofs.Macro.Evaluation
import SqlNotebook.Proofs.Macro.Numbered

namespace SqlNotebook

/-! ### Numerals as texts -/

/-- Whether the numeral of a number starts with a one. -/
def LeadsWithOne (n : Nat) : Prop :=
  ∃ k, 10 ^ k ≤ n ∧ n < 2 * 10 ^ k

/-- The last digit of a number of several digits has no part in how it starts. -/
theorem leadsWithOne_div_ten {n : Nat} (h : 10 ≤ n) : LeadsWithOne (n / 10) ↔ LeadsWithOne n := by
  constructor
  · rintro ⟨k, hle, hlt⟩
    exact ⟨k + 1, by omega, by omega⟩
  · rintro ⟨k, hle, hlt⟩
    cases k with
    | zero => omega
    | succ k => exact ⟨k, by omega, by omega⟩

/-- Whether a text is below a single character shows in the character that it starts
with. -/
theorem append_lt_singleton_iff {s t : List Char} {c : Char} (hs : s ≠ []) :
    s ++ t < [c] ↔ s < [c] := by
  cases s with
  | nil => exact absurd rfl hs
  | cons d rest => simp [List.cons_lt_cons_iff]

theorem toDigits_lt_two_iff (n : Nat) :
    Nat.toDigits 10 n < ['2'] ↔ n = 0 ∨ LeadsWithOne n := by
  induction n using Nat.strongRecOn with
  | ind n ih =>
    rw [Nat.toDigits_eq_if (by decide)]
    by_cases h : n < 10
    · have hpowers : LeadsWithOne n ↔ n = 1 := by
        constructor
        · rintro ⟨k, hle, hlt⟩
          cases k with
          | zero => omega
          | succ k =>
            have := Nat.one_le_pow k 10 (by decide)
            omega
        · rintro rfl
          exact ⟨0, by decide, by decide⟩
      rw [if_pos h, hpowers]
      interval_cases n <;> decide
    · have hnumber : n ≠ 0 := by omega
      have hquotient : n / 10 ≠ 0 := by omega
      rw [if_neg h, append_lt_singleton_iff Nat.toDigits_ne_nil, ih (n / 10) (by omega),
        leadsWithOne_div_ten (by omega)]
      simp [hnumber, hquotient]

/-- As texts, the numbers below two are zero and those whose numeral starts with a
one. -/
theorem toString_lt_two_iff (n : Nat) : toString n < "2" ↔ n = 0 ∨ LeadsWithOne n := by
  rw [← toDigits_lt_two_iff, ← Nat.toList_repr, ← Nat.toString_eq_repr]
  rfl

namespace Macro

/-! ### The body of `DESCRIBE` -/

/-- What `DESCRIBE` says about a statement that it does not take. -/
def describeSyntax : String :=
  "Syntax: DESCRIBE [TABLE name | SELECT statement]"

/-- The expansion of a statement that `DESCRIBE` does not take. -/
def describeRefusal : Expansion where
  text := ""
  notices := [.error describeSyntax]
  expanded := true
  exited := true

/-- The call of the administrative procedure for a statement. -/
def describeText (tokens : List String) : String :=
  "CALL ADMIN_CMD('" ++ Text.join " " tokens ++ "');"

/-- The expansion of a statement that `DESCRIBE` takes. -/
def describeCall (tokens : List String) : Expansion where
  text := "-a " ++ describeText tokens
  flags := ["-a"]
  expanded := true

namespace DescribeLine

/-- Stores what is reported about a statement that is not taken. -/
def syntaxLine : Line .ordinary :=
  ⟨"var syntax Syntax: DESCRIBE [TABLE name | SELECT statement]", rfl, by decide⟩

/-- Looks whether there are enough arguments. -/
def gateLine : Line .openIf :=
  ⟨"if \x7bargc\x7d < 2", rfl, by decide⟩

def callLine : Line .ordinary :=
  ⟨"CALL ADMIN_CMD('\x7b*0\x7d');", rfl, by decide⟩

end DescribeLine

open DescribeLine

/-- The part of the body that looks at the arguments. -/
def describeGate : Block :=
  .ifThen gateLine (.line (syntaxExitLine.indent 3) .done) endifLine <|
    .literals [""] literal_blank <| .line callLine .done

/-- The body of `DESCRIBE` as a tree. -/
def describeBlock : Block :=
  .literals [""] literal_blank <| .line syntaxLine <| .line flagsLine describeGate

theorem lines_describeBlock : describeBlock.lines = describeBody := rfl

theorem get?_builtins_describe : builtins.get? "DESCRIBE" = some ⟨"DESCRIBE", describeBody⟩ := by
  have hset : "DESCRIBE" ≠ "SET" := by decide
  simp only [builtins, List.foldl, MacroTable.add, Dictionary.get?_set, if_neg hset, if_true]

/-! ### Evaluating the body -/

variable {g : Gathered} {argc : String} {tokens : List String}

theorem runLine_syntaxLine (g : Gathered) :
    g.runLine syntaxLine.raw =
      .through { g with scope := g.scope.set "syntax" describeSyntax } :=
  runLine_of_fixed g syntaxLine.raw rfl (by decide)

theorem test_gateLine (hargc : g.scope.get? "argc" = some argc) :
    g.test 0 gateLine.raw = .ok (decide (argc < "2"), g) := by
  have htokens : g.tokens gateLine.raw =
      ["if", "\x7bargc\x7d", "<", "2"].map (Placeholder.expand g.scope) := rfl
  have hvalue : Placeholder.expand g.scope "\x7bargc\x7d" = argc :=
    Placeholder.expand_of_value g.scope rfl (by decide) rfl hargc
  have hright : unquote "2" = "2" := by decide
  exact test_of_value (by decide) htokens hvalue (by decide) rfl (by decide) hright

theorem runLine_callLine
    (htokens : (Placeholder.Request.joined " " "0").expand g.scope = .ok (Text.join " " tokens)) :
    g.runLine callLine.raw = .through { g with output := g.output ++ [describeText tokens] } := by
  have hwords : g.tokens callLine.raw =
      ["CALL", "ADMIN_CMD('\x7b*0\x7d');"].map (Placeholder.expand g.scope) := rfl
  have hdirective := directive_of_word hwords (by decide) fun _ => rfl
  have hbraces : Placeholder.expandBraces g.scope ['*', '0'] = .ok (Text.join " " tokens) := htokens
  have hline : (Text.trim callLine.raw).toList =
      "CALL ADMIN_CMD('".toList ++ '{' :: (['*', '0'] ++ '}' :: "');".toList) := by decide
  have hrun := runLine_of_braces hdirective (by decide) hline (by decide) (by decide) (by decide)
    hbraces
  rwa [String.ofList_toList, String.ofList_toList] at hrun

theorem eval_describeGate (hargc : g.scope.get? "argc" = some argc)
    (hstored : g.scope.get? "syntax" = some describeSyntax)
    (htokens : (Placeholder.Request.joined " " "0").expand g.scope = .ok (Text.join " " tokens)) :
    describeGate.eval 0 g =
      .ok (if argc < "2" then .exited (g.notify (.error describeSyntax))
        else .through { g with output := g.output ++ [describeText tokens] }) := by
  rw [describeGate, eval_ifThen (test_gateLine hargc)]
  by_cases hfew : argc < "2"
  · rw [if_pos hfew, if_pos hfew, eval_exit hstored]
    rfl
  · rw [if_neg hfew, if_neg hfew, eval_blank, eval_line_of_through (runLine_callLine htokens)]
    rfl

/-- What the body comes to depends on the numeral of the number of arguments. -/
theorem expansion_describeBlock {scope : Scope} (hargc : scope.get? "argc" = some argc)
    (htokens : (Placeholder.Request.joined " " "0").expand (scope.set "syntax" describeSyntax) =
      .ok (Text.join " " tokens)) :
    describeBlock.expansion scope =
      .ok (if argc < "2" then describeRefusal else describeCall tokens) := by
  have hvisible : (scope.set "syntax" describeSyntax).get? "argc" = some argc := by
    rw [Dictionary.get?_set, if_neg (by decide), hargc]
  have hstored : (scope.set "syntax" describeSyntax).get? "syntax" = some describeSyntax := by
    rw [Dictionary.get?_set, if_pos rfl]
  let gate : Gathered := { scope := scope.set "syntax" describeSyntax, flags := ["-a"] }
  have hgate : describeGate.eval 0 gate = _ := eval_describeGate hvisible hstored htokens
  rw [Block.expansion, describeBlock, eval_blank, eval_line_of_through (runLine_syntaxLine _),
    eval_line_of_through (runLine_flagsLine _)]
  show Except.map _ (describeGate.eval 0 gate) = _
  rw [hgate]
  split <;> rfl

end Macro

namespace MacroTable

open Macro

variable (table : MacroTable) {instruction : String}

/-- A call of the built-in `DESCRIBE` compares the numeral of the number of its
arguments. -/
theorem expand_of_describe (hbuiltin : table.get? "DESCRIBE" = builtins.get? "DESCRIBE")
    (hname : (Call.ofInstruction instruction).name? = some "DESCRIBE")
    (hsize : (Call.ofInstruction instruction).tokens.length < UInt64.size) :
    table.expand instruction =
      .ok (if toString (Call.ofInstruction instruction).argumentCount < "2" then describeRefusal
        else describeCall (Call.ofInstruction instruction).tokens) := by
  let call := Call.ofInstruction instruction
  have hcalled : table.called? instruction = some ⟨"DESCRIBE", describeBody⟩ := by
    rw [called?_of_name? table hname, hbuiltin, get?_builtins_describe]
  have hargc : call.scope.get? "argc" = some (toString call.argumentCount) :=
    Scope.get?_argc_ofTokens call.tokens
  have hnumbers (i : Nat) (_ : i ≤ call.tokens.length) :
      (call.scope.set "syntax" describeSyntax).get? (toString (0 + i)) = call.tokens[i]? := by
    have hother : toString i ≠ "syntax" := Scope.toString_ne_of_not_isDigit i (by decide)
    rw [Nat.zero_add, Dictionary.get?_set, if_neg hother]
    exact Scope.get?_ofTokens call.tokens i
  exact table.expand_of_lines hcalled lines_describeBlock
    (expansion_describeBlock hargc (Placeholder.expand_joined hnumbers (by rwa [Nat.zero_add]) " "))

/-- **The statements that the built-in `DESCRIBE` takes**, and what becomes of them.
Of those with at least two arguments it turns down the ones whose number of
arguments starts with a one. -/
theorem expand_describe (hbuiltin : table.get? "DESCRIBE" = builtins.get? "DESCRIBE")
    (hname : (Call.ofInstruction instruction).name? = some "DESCRIBE")
    (hsize : (Call.ofInstruction instruction).tokens.length < UInt64.size) :
    let call := Call.ofInstruction instruction
    (call.argumentCount < 2 ∨ LeadsWithOne call.argumentCount →
        table.expand instruction = .ok describeRefusal) ∧
      (2 ≤ call.argumentCount → ¬ LeadsWithOne call.argumentCount →
        table.expand instruction = .ok (describeCall call.tokens)) := by
  intro call
  have hfew := toString_lt_two_iff call.argumentCount
  rw [expand_of_describe table hbuiltin hname hsize]
  refine ⟨fun h => ?_, fun hmany hone => ?_⟩
  · have hlt : toString call.argumentCount < "2" := by
      refine hfew.2 (h.elim (fun hlt => ?_) Or.inr)
      rcases Nat.eq_zero_or_pos call.argumentCount with hzero | hpos
      · exact .inl hzero
      · exact .inr ⟨0, hpos, hlt⟩
    rw [if_pos hlt]
  · have hnot : ¬ toString call.argumentCount < "2" := by
      intro hlt
      exact (hfew.1 hlt).elim (by omega) hone
    rw [if_neg hnot]

/-- A name in lower case, and an empty slot among the arguments. -/
theorem expand_describe_emptySlot :
    (Call.ofInstruction "describe table  t").name? = some "DESCRIBE" ∧
      (Call.ofInstruction "describe table  t").tokens.length < UInt64.size ∧
      builtins.expand "describe table  t" =
        .ok (describeCall ["describe", "table", "null", "t"]) := by
  have hname : (Call.ofInstruction "describe table  t").name? = some "DESCRIBE" := rfl
  have hsize : (Call.ofInstruction "describe table  t").tokens.length < UInt64.size := by decide
  have hone : ¬ LeadsWithOne 3 := by
    rintro ⟨k, hle, hlt⟩
    cases k with
    | zero => omega
    | succ k =>
      have := Nat.one_le_pow k 10 (by decide)
      omega
  exact ⟨hname, hsize, (expand_describe builtins rfl hname hsize).2 (by decide) hone⟩

/-- The columns of a query, which make it one of ten words. -/
def tenArguments : String :=
  "DESCRIBE SELECT A, B, C, D, E, F, G FROM T"

/-- `DESCRIBE` does not take every statement with at least two arguments: it turns
down a query of ten words. -/
theorem describe_refuses_tenArguments :
    ¬ ∀ instruction,
      (Call.ofInstruction instruction).name? = some "DESCRIBE" →
        2 ≤ (Call.ofInstruction instruction).argumentCount →
          builtins.expand instruction =
            .ok (describeCall (Call.ofInstruction instruction).tokens) := by
  intro htaken
  have hname : (Call.ofInstruction tenArguments).name? = some "DESCRIBE" := rfl
  have hcount : (Call.ofInstruction tenArguments).argumentCount = 10 := by decide
  have hrefused : builtins.expand tenArguments = .ok describeRefusal := by
    rw [expand_of_describe builtins rfl hname (by decide), hcount, if_pos (by decide)]
  have heq := (htaken tenArguments hname (by omega)).symm.trans hrefused
  have hexited := congrArg Expansion.exited (Except.ok.inj heq)
  cases hexited

end MacroTable

end SqlNotebook
