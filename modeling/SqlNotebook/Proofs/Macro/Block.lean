/-
SqlNotebook/Proofs/Macro/Block.lean

The body of a macro as a tree.  A block is a sequence of ordinary lines and of
`if` lines, each with the blocks in its two halves and the lines that delimit
them:

    if {1} == a         opening
        SELECT 1        body
    else                middle
        SELECT 2        other
    endif               closing

Which of these a line is shows in its first token.  The token is fixed text, so
that no placeholder can turn the line into one of another kind while the macro
runs; `Line` keeps both facts.

`Block.eval` runs a block by recursion on the tree.  Of an `if` it runs one half
and never looks at the other one; nothing has to be counted.
-/
import SqlNotebook.Macro.Run

namespace SqlNotebook.Macro

/-! ### Lines -/

/-- What a line means for the nesting of `if` lines. -/
inductive LineKind
  | ordinary
  | openIf
  | otherwise
  | closeIf
deriving DecidableEq, Repr

/-- The first token of a line, before placeholders are expanded.  A line that is
passed over has none. -/
def firstToken? (raw : String) : Option String :=
  if State.passesOver (Text.trim raw) then none else (Token.split (Text.trim raw)).head?

/-- The kind of a line with the given first token. -/
def LineKind.ofToken? : Option String → LineKind
  | some "if" => .openIf
  | some "else" => .otherwise
  | some "endif" => .closeIf
  | _ => .ordinary

/-- A line of the given kind whose first token is fixed text. -/
structure Line (kind : LineKind) where
  raw : String
  kind_eq : LineKind.ofToken? (firstToken? raw) = kind
  fixed : ∀ token ∈ firstToken? raw, '{' ∉ token.toList

/-! ### Blocks -/

/-- A well nested sequence of lines. -/
inductive Block
  | done
  | line (ordinary : Line .ordinary) (rest : Block)
  | ifThen (opening : Line .openIf) (body : Block) (closing : Line .closeIf) (rest : Block)
  | ifElse (opening : Line .openIf) (body : Block) (middle : Line .otherwise) (other : Block)
      (closing : Line .closeIf) (rest : Block)

/-- The lines of a block, in order. -/
def Block.lines : Block → List String
  | .done => []
  | .line ordinary rest => ordinary.raw :: rest.lines
  | .ifThen opening body closing rest =>
    opening.raw :: (body.lines ++ closing.raw :: rest.lines)
  | .ifElse opening body middle other closing rest =>
    opening.raw :: (body.lines ++ middle.raw :: (other.lines ++ closing.raw :: rest.lines))

/-! ### Running a block -/

/-- What a macro has gathered at some point of its run. -/
structure Gathered where
  scope : Scope
  flags : List String := []
  output : List String := []
  notices : List Notice := []

/-- How a block comes to its end, and what has been gathered by then. -/
inductive Ending
  | through (gathered : Gathered)
  | returned (gathered : Gathered)
  | exited (gathered : Gathered)

/-- Goes on behind a block that has neither failed nor ended the macro. -/
def followedBy (ended : Except Fault Ending) (next : Gathered → Except Fault Ending) :
    Except Fault Ending :=
  match ended with
  | .ok (.through gathered) => next gathered
  | stopped => stopped

/-- The expansion of a macro whose body has come to its end. -/
def Ending.expansion : Ending → Expansion
  | .through g | .returned g =>
    { text := (if g.flags = [] then "" else Text.join " " g.flags ++ " ") ++ Text.join "\n" g.output
      flags := g.flags
      notices := g.notices
      expanded := true }
  | .exited g => { text := "", notices := g.notices, expanded := true, exited := true }

namespace Gathered

/-- Adds a notice, unless it has no text. -/
def notify (g : Gathered) (notice : Notice) : Gathered :=
  { g with notices := g.notices ++ if notice.message = "" then [] else [notice] }

/-- The tokens of a line, with the variables of this moment. -/
def tokens (g : Gathered) (raw : String) : List String :=
  Token.splitWith (Placeholder.expand g.scope) (Text.trim raw)

/-- Carries out what an ordinary line says. -/
def carryOut (g : Gathered) (line : String) : Directive → Ending
  | .var (some name) words => .through { g with scope := g.scope.set name (Text.join " " words) }
  | .echo words => .through (g.notify (.info (Text.join " " words)))
  | .exit words => .exited (g.notify (.error (Text.join " " words)))
  | .flags words => .through { g with flags := g.flags ++ words }
  | .return => .returned g
  | .text => .through { g with output := g.output ++ [Placeholder.expand g.scope line] }
  | _ => .through g

/-- Runs an ordinary line. -/
def runLine (g : Gathered) (raw : String) : Ending :=
  if State.passesOver (Text.trim raw) then .through g
  else g.carryOut (Text.trim raw) (Directive.ofTokens (g.tokens raw))

/-- Whether a condition holds.  One with an unknown operator does not, and this
is reported. -/
def judge (g : Gathered) (condition : Condition) : Bool × Gathered :=
  match Comparison.ofOperator? condition.operator with
  | some comparison => (comparison.holds condition.left condition.right, g)
  | none =>
    (false, g.notify
      (.error ("Unknown comparison operator in the if statement: " ++ condition.operator)))

/-- Evaluates an `if` line inside of `depth` others. -/
def test (g : Gathered) (depth : Nat) (raw : String) : Except Fault (Bool × Gathered) :=
  if maxDepth ≤ depth then .error .tooDeep
  else
    match Condition.ofTokens? (g.tokens raw).tail with
    | none => .error .missingOperands
    | some condition => .ok (g.judge condition)

end Gathered

/-- Runs a block inside of `depth` evaluated `if` lines. -/
def Block.eval : Block → (depth : Nat) → Gathered → Except Fault Ending
  | .done, _, g => .ok (.through g)
  | .line ordinary rest, depth, g => followedBy (.ok (g.runLine ordinary.raw)) (rest.eval depth)
  | .ifThen opening body _ rest, depth, g =>
    match g.test depth opening.raw with
    | .error fault => .error fault
    | .ok (true, g) => followedBy (body.eval (depth + 1) g) (rest.eval depth)
    | .ok (false, g) => rest.eval depth g
  | .ifElse opening body _ other _ rest, depth, g =>
    match g.test depth opening.raw with
    | .error fault => .error fault
    | .ok (true, g) => followedBy (body.eval (depth + 1) g) (rest.eval depth)
    | .ok (false, g) => followedBy (other.eval (depth + 1) g) (rest.eval depth)

/-- The expansion of a macro whose body is the given block. -/
def Block.expansion (block : Block) (scope : Scope) : Except Fault Expansion :=
  (block.eval 0 { scope }).map Ending.expansion

end SqlNotebook.Macro
