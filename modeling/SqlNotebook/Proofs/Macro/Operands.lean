/-
SqlNotebook/Proofs/Macro/Operands.lean

What the values of variables can do to a line of a macro.  The line is cut into tokens as it is
written, and each token is expanded by itself (`splitWith_expand`).  So a value stays inside of
the token that asks for it, whatever blanks, quotes, parentheses or braces it holds:

    if {1} == {2}       with  1 = it's (x  y   and  2 = else
                        has the operands  it's (x  y,  ==  and  else

The outline of a directive says which directive it is and which operands it has, without their
values.  It depends on the first token and on the number of tokens only (`outline_ofTokens`), and
is therefore the same for all values with which the line has the same first token
(`directive_of_scope`).
-/
import SqlNotebook.Macro.Run
import SqlNotebook.Proofs.Token.Slots

namespace SqlNotebook

open Placeholder (expand)

/-- **Each token of a line is expanded by itself.** -/
theorem Token.splitWith_expand (line : String) (scope : Scope) :
    splitWith (expand scope) line = (split line).map (expand scope) :=
  fillSlots_eq_map (Placeholder.expand_of_not_mem scope (by decide)) (slots line.toList)

namespace Macro

/-- A directive without the values of its operands. -/
def Directive.outline : Directive → Directive
  | .openIf condition => .openIf (condition.map fun _ => ⟨"", "", ""⟩)
  | .var name words => .var (name.map fun _ => "") (words.map fun _ => "")
  | .echo words => .echo (words.map fun _ => "")
  | .exit words => .exit (words.map fun _ => "")
  | .flags words => .flags (words.map fun _ => "")
  | directive => directive

variable {tokens others : List String}

/-- Other values of the operands leave the outline as it is. -/
theorem outline_ofTokens_map (keyword : String) (operands : List String) (f : String → String) :
    (Directive.ofTokens (keyword :: operands.map f)).outline =
      (Directive.ofTokens (keyword :: operands)).outline := by
  have hblank (words : List String) : (words.map f).map (fun _ => "") = words.map fun _ => "" := by
    rw [List.map_map]
    rfl
  have hfirst : (operands.map f).head?.map (fun _ => "") = operands.head?.map fun _ => "" := by
    rw [← List.head?_map, hblank, List.head?_map]
  simp only [Directive.ofTokens]
  split
  · -- an `if` has a condition if there are three operands
    rcases operands with - | ⟨left, - | ⟨operator, - | ⟨right, operands⟩⟩⟩ <;> rfl
  all_goals simp only [Directive.outline, hfirst, ← List.map_tail, hblank]

/-- **The outline of a directive depends on its first token and on the number of its tokens.** -/
theorem outline_ofTokens (hkeyword : tokens.head? = others.head?)
    (hlength : tokens.length = others.length) :
    (Directive.ofTokens tokens).outline = (Directive.ofTokens others).outline := by
  rcases tokens with - | ⟨keyword, tokens⟩
  · rw [List.eq_nil_of_length_eq_zero hlength.symm]
  · obtain ⟨others, rfl⟩ := List.head?_eq_some_iff.mp hkeyword.symm
    -- with all operands emptied, the two lists of tokens are the same
    have hblank : tokens.map (fun _ => "") = others.map fun _ => "" := by
      rw [List.map_const', List.map_const', Nat.succ.inj hlength]
    rw [← outline_ofTokens_map keyword tokens fun _ => "", hblank, outline_ofTokens_map]

/-- **Values of variables never move a boundary of tokens.**  The tokens of a line are those that
are written there, each expanded by itself; so there are equally many for all values.  If the
first one comes to the same, the line is the same directive with the same operands, up to their
values; and behind a first token that is fixed text, the operands are the tokens that follow it,
each expanded by itself. -/
theorem directive_of_scope (line : String) :
    (∀ scope, Token.splitWith (expand scope) line = (Token.split line).map (expand scope)) ∧
      (∀ scope other, (Token.splitWith (expand scope) line).length =
        (Token.splitWith (expand other) line).length) ∧
      (∀ state other : State,
        (∀ token ∈ (Token.split line).head?,
          expand state.scope token = expand other.scope token) →
          (state.directive line).outline = (other.directive line).outline) ∧
      ∀ keyword operands, Token.split line = keyword :: operands → '{' ∉ keyword.toList →
        ∀ state : State,
          state.directive line =
            Directive.ofTokens (keyword :: operands.map (expand state.scope)) := by
  have hsplit := Token.splitWith_expand line
  have hlength (scope : Scope) :
      (Token.splitWith (expand scope) line).length = (Token.split line).length := by
    rw [hsplit, List.length_map]
  refine ⟨hsplit, fun scope other => (hlength scope).trans (hlength other).symm, ?_, ?_⟩
  · intro state other hkeyword
    refine outline_ofTokens ?_ ((hlength state.scope).trans (hlength other.scope).symm)
    rw [hsplit, hsplit, List.head?_map, List.head?_map]
    exact Option.map_congr hkeyword
  · intro keyword operands htokens hfixed state
    rw [State.directive, hsplit, htokens, List.map_cons,
      Placeholder.expand_of_not_mem state.scope hfixed]

/-- A comparison of two variables. -/
def comparisonLine : String :=
  "if \x7b1\x7d == \x7b2\x7d"

/-- Values with a quote, a parenthesis, blanks, a brace and a keyword in them. -/
def awkwardState : State where
  scope := (Dictionary.empty.set "1" "it's (x  \x7b").set "2" "else if"

/-- Values that are words. -/
def plainState : State where
  scope := (Dictionary.empty.set "1" "a").set "2" "b"

theorem directive_of_scope_awkward :
    Token.split comparisonLine = ["if", "\x7b1\x7d", "==", "\x7b2\x7d"] ∧
      (∀ token ∈ (Token.split comparisonLine).head?,
        expand awkwardState.scope token = expand plainState.scope token) ∧
      (awkwardState.directive comparisonLine).outline =
        (plainState.directive comparisonLine).outline ∧
      awkwardState.directive comparisonLine =
        .openIf (some ⟨"it's (x  \x7b", "==", "else if"⟩) := by
  have htokens : Token.split comparisonLine = ["if", "\x7b1\x7d", "==", "\x7b2\x7d"] := by decide
  have hkeyword : ∀ token ∈ (Token.split comparisonLine).head?,
      expand awkwardState.scope token = expand plainState.scope token := by
    rw [htokens]
    decide
  obtain ⟨-, -, houtline, hoperands⟩ := directive_of_scope comparisonLine
  refine ⟨htokens, hkeyword, houtline awkwardState plainState hkeyword, ?_⟩
  rw [hoperands _ _ htokens (by decide)]
  decide

end Macro

end SqlNotebook
