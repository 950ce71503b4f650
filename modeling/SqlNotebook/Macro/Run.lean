/-
SqlNotebook/Macro/Run.lean

Running the lines of a macro.  Blank lines and lines that start with `#` are
passed over.  Of any other line the tokens are taken, their placeholders are
expanded with the variables of that moment, and the directive that results is
carried out.
-/
import SqlNotebook.Macro.Branches
import SqlNotebook.Macro.Comparison
import SqlNotebook.Macro.Directive
import SqlNotebook.Placeholder

namespace SqlNotebook.Macro

/-- What a macro has gathered at some point of its run. -/
structure State where
  scope : Scope
  branches : Branches := .start
  flags : List String := []
  output : List String := []
  notices : List Notice := []

/-- How a run goes on behind a line. -/
inductive Step
  | next (state : State)
  | return (state : State)
  | exit (state : State)

namespace State

/-- Adds a notice, unless it has no text. -/
def report (state : State) (notice : Notice) : State :=
  if notice.message = "" then state else { state with notices := state.notices ++ [notice] }

/-- Evaluates a condition.  An operator that is none is reported, and the
condition does not hold. -/
def decideCondition (state : State) (condition : Condition) : Bool × State :=
  match Comparison.ofOperator? condition.operator with
  | some comparison => (comparison.holds condition.left condition.right, state)
  | none =>
    (false, state.report
      (.error ("Unknown comparison operator in the if statement: " ++ condition.operator)))

/-- Opens an `if`. -/
def openIf (state : State) (condition : Option Condition) : Except Fault State :=
  if !state.branches.active then .ok { state with branches := state.branches.skip }
  else if (maxDepth : Int) ≤ state.branches.level then .error .tooDeep
  else
    match condition with
    | none => .error .missingOperands
    | some condition =>
      let (outcome, reported) := state.decideCondition condition
      .ok { reported with branches := state.branches.enter outcome }

/-- Carries out a directive.  Only `if`, `else` and `endif` do something where
lines do not run.  A text goes into the output as the line that it is. -/
def perform (state : State) (line : String) : Directive → Except Fault Step
  | .openIf condition => (state.openIf condition).map .next
  | .otherwise => .ok (.next { state with branches := state.branches.flip })
  | .closeIf => state.branches.close.map fun branches => .next { state with branches := branches }
  | directive =>
    if !state.branches.active then .ok (.next state)
    else
      match directive with
      | .var (some name) words =>
        .ok (.next { state with scope := state.scope.set name (Text.join " " words) })
      | .echo words => .ok (.next (state.report (.info (Text.join " " words))))
      | .exit words => .ok (.exit (state.report (.error (Text.join " " words))))
      | .flags words => .ok (.next { state with flags := state.flags ++ words })
      | .return => .ok (.return state)
      | .text =>
        .ok (.next { state with
          output := state.output ++ [Placeholder.expand state.scope line] })
      | _ => .ok (.next state)

/-- The expansion of a macro that has run to its end or to a `return`. -/
def finish (state : State) : Expansion where
  text :=
    let body := Text.join "\n" state.output
    if state.flags.isEmpty then body else Text.join " " state.flags ++ " " ++ body
  flags := state.flags
  notices := state.notices
  expanded := true

/-- The expansion of a macro that has run to an `exit`. -/
def giveUp (state : State) : Expansion where
  text := ""
  notices := state.notices
  expanded := true
  exited := true

/-- Whether a line, without blanks at its ends, is passed over. -/
def passesOver (line : String) : Bool :=
  match line.toList with
  | [] => true
  | c :: _ => c = '#'

/-- What the line says at this moment. -/
def directive (state : State) (line : String) : Directive :=
  Directive.ofTokens (Token.splitWith (Placeholder.expand state.scope) line)

/-- Runs one line. -/
def step (state : State) (raw : String) : Except Fault Step :=
  let line := Text.trim raw
  if passesOver line then .ok (.next state) else state.perform line (state.directive line)

/-- Runs the lines of a macro to the end. -/
def run (state : State) : List String → Except Fault Expansion
  | [] => if state.branches.nesting = 0 then .ok state.finish else .error .unmatched
  | raw :: rest =>
    match state.step raw with
    | .error fault => .error fault
    | .ok (.next state) => state.run rest
    | .ok (.return state) => .ok state.finish
    | .ok (.exit state) => .ok state.giveUp

end State

end SqlNotebook.Macro
