/-
SqlNotebook/Proofs/Macro/Nesting.lean

The line-by-line run of a macro implements nested `if` lines.  A run keeps two
counters and a slot for every level instead of a tree.  The run of the lines of a
block is the evaluation of the block, whatever lines follow:

    run (lines block ++ rest) at g  =  eval block g, then run rest

A block in a half that does not run leaves the state as it is
(`run_lines_of_inactive`); this needs nothing about the `if` lines around it,
since the block closes every `if` that it opens.  In a half that runs, no
skipped `if` is open, so that `else` and `endif` belong to the innermost
evaluated one.  Behind the block the counters are those in front of it, but the
slots above the level may be left over from the block; so what follows is a
function of what has been gathered, for any slots that are left over
(`run_lines`).
-/
import SqlNotebook.Macro.Table
import SqlNotebook.Proofs.Macro.Block

namespace SqlNotebook.Macro

/-! ### What the lines of each kind say -/

/-- The kind of the lines that say a directive. -/
def Directive.kind : Directive → LineKind
  | .openIf _ => .openIf
  | .otherwise => .otherwise
  | .closeIf => .closeIf
  | _ => .ordinary

theorem Directive.kind_ofTokens (tokens : List String) :
    (Directive.ofTokens tokens).kind = LineKind.ofToken? tokens.head? := by
  rcases tokens with - | ⟨keyword, rest⟩
  · rfl
  · simp only [Directive.ofTokens, List.head?_cons]
    split <;> first | rfl | simp_all [Directive.kind, LineKind.ofToken?]

theorem Directive.eq_of_kind_openIf {tokens : List String}
    (h : (Directive.ofTokens tokens).kind = .openIf) :
    Directive.ofTokens tokens = .openIf (Condition.ofTokens? tokens.tail) := by
  rcases tokens with - | ⟨keyword, rest⟩
  · cases h
  · simp only [Directive.ofTokens] at h ⊢
    split at h <;> first | rfl | cases h

namespace Line

variable {kind : LineKind} (line : Line kind)

/-- A line with a keyword of its own is not passed over. -/
theorem passesOver_eq_false (hkind : kind ≠ .ordinary) :
    State.passesOver (Text.trim line.raw) = false := by
  rcases h : State.passesOver (Text.trim line.raw) with - | -
  · rfl
  · have hnone : firstToken? line.raw = none := by simp [firstToken?, h]
    have hordinary := line.kind_eq
    rw [hnone] at hordinary
    exact absurd hordinary.symm hkind

/-- The first token of a line is the same with any variables. -/
theorem head?_tokens (runs : State.passesOver (Text.trim line.raw) = false) (g : Gathered) :
    (g.tokens line.raw).head? = firstToken? line.raw := by
  have first : firstToken? line.raw = (Token.split (Text.trim line.raw)).head? := by
    simp [firstToken?, runs]
  rw [first]
  refine Token.head?_splitWith _ _ fun token htoken => ?_
  exact Placeholder.expand_of_not_mem g.scope (line.fixed token (first.trans htoken))

/-- What a line says is of the kind of the line, with any variables. -/
theorem kind_directive (runs : State.passesOver (Text.trim line.raw) = false) (g : Gathered) :
    (Directive.ofTokens (g.tokens line.raw)).kind = kind := by
  rw [Directive.kind_ofTokens, line.head?_tokens runs g, line.kind_eq]

end Line

/-! ### Steps -/

/-- The state of a run that has gathered `g`, with the given `if` lines open. -/
def Gathered.state (g : Gathered) (branches : Branches) : State :=
  ⟨g.scope, branches, g.flags, g.output, g.notices⟩

/-- The step that a run takes on a line that has the given ending. -/
def Ending.step (branches : Branches) : Ending → Step
  | .through g => .next (g.state branches)
  | .returned g => .return (g.state branches)
  | .exited g => .exit (g.state branches)

/-- Goes over to the state behind an evaluated `if`. -/
def Gathered.enter (branches : Branches) : Bool × Gathered → Step
  | (holds, g) => .next (g.state (branches.enter holds))

variable {g : Gathered} {branches : Branches}

theorem step_of_runs {raw : String} (runs : State.passesOver (Text.trim raw) = false) :
    (g.state branches).step raw =
      (g.state branches).perform (Text.trim raw) (Directive.ofTokens (g.tokens raw)) := by
  rw [State.step, if_neg (by simp [runs])]
  rfl

@[simp] theorem branches_state : (g.state branches).branches = branches := rfl

theorem report_state (notice : Notice) :
    (g.state branches).report notice = (g.notify notice).state branches := by
  by_cases h : notice.message = ""
  · simp [State.report, Gathered.notify, Gathered.state, h]
  · simp [State.report, Gathered.notify, Gathered.state, h]

theorem decideCondition_state (condition : Condition) :
    (g.state branches).decideCondition condition =
      ((g.judge condition).1, (g.judge condition).2.state branches) := by
  rcases h : Comparison.ofOperator? condition.operator with - | comparison
  · simp [State.decideCondition, Gathered.judge, h, report_state]
  · simp [State.decideCondition, Gathered.judge, h]

/-- In a half that runs, an ordinary line does what it says. -/
theorem perform_of_active (hactive : branches.active = true) (line : String)
    {directive : Directive} (hkind : directive.kind = .ordinary) :
    (g.state branches).perform line directive =
      .ok ((g.carryOut line directive).step branches) := by
  cases directive with
  | openIf | otherwise | closeIf => cases hkind
  | echo words => simp [State.perform, hactive, Gathered.carryOut, Ending.step, report_state]
  | exit words => simp [State.perform, hactive, Gathered.carryOut, Ending.step, report_state]
  | var name words =>
    rcases name with - | name <;>
      simp [State.perform, hactive, Gathered.carryOut, Ending.step, Gathered.state]
  | _ => simp [State.perform, hactive, Gathered.carryOut, Ending.step, Gathered.state]

/-- In a half that does not run, an ordinary line does nothing. -/
theorem perform_of_inactive (hactive : branches.active = false) (line : String)
    {directive : Directive} (hkind : directive.kind = .ordinary) :
    (g.state branches).perform line directive = .ok (.next (g.state branches)) := by
  cases directive with
  | openIf | otherwise | closeIf => cases hkind
  | _ => simp [State.perform, hactive]

theorem step_ordinary (line : Line .ordinary) (hactive : branches.active = true) :
    (g.state branches).step line.raw = .ok ((g.runLine line.raw).step branches) := by
  rcases runs : State.passesOver (Text.trim line.raw) with - | -
  · rw [step_of_runs runs, perform_of_active hactive _ (line.kind_directive runs g)]
    simp [Gathered.runLine, runs]
  · simp [State.step, Gathered.runLine, runs, Ending.step]

theorem step_ordinary_of_inactive (line : Line .ordinary) (hactive : branches.active = false) :
    (g.state branches).step line.raw = .ok (.next (g.state branches)) := by
  rcases runs : State.passesOver (Text.trim line.raw) with - | -
  · rw [step_of_runs runs, perform_of_inactive hactive _ (line.kind_directive runs g)]
  · simp [State.step, runs]

/-- The directive of an `if` line, with the operands of this moment. -/
theorem step_openIf (line : Line .openIf) :
    (g.state branches).step line.raw =
      ((g.state branches).openIf (Condition.ofTokens? (g.tokens line.raw).tail)).map .next := by
  have runs := line.passesOver_eq_false (by simp)
  rw [step_of_runs runs, Directive.eq_of_kind_openIf (line.kind_directive runs g)]
  rfl

theorem step_openIf_of_active (line : Line .openIf) (hactive : branches.active = true) {depth : Nat}
    (hlevel : branches.level = depth) :
    (g.state branches).step line.raw = (g.test depth line.raw).map (Gathered.enter branches) := by
  rw [step_openIf, Gathered.test]
  by_cases hdeep : maxDepth ≤ depth
  · simp [State.openIf, hactive, hlevel, hdeep, Except.map]
  · rcases Condition.ofTokens? (g.tokens line.raw).tail with - | condition
    · simp [State.openIf, hactive, hlevel, hdeep, Except.map]
    · simp only [State.openIf, branches_state, hactive, hlevel, Int.ofNat_le, hdeep, Except.map,
        decideCondition_state]
      rfl

/-- An `if` is only evaluated inside of fewer than the greatest number of others. -/
theorem depth_of_test {depth : Nat} {raw : String} {outcome : Bool × Gathered}
    (h : g.test depth raw = .ok outcome) : depth < maxDepth := by
  rw [Gathered.test] at h
  split at h
  · cases h
  · omega

theorem step_openIf_of_inactive (line : Line .openIf) (hactive : branches.active = false) :
    (g.state branches).step line.raw = .ok (.next (g.state branches.skip)) := by
  rw [step_openIf]
  simp [State.openIf, hactive, Except.map, Gathered.state]

theorem step_otherwise (line : Line .otherwise) :
    (g.state branches).step line.raw = .ok (.next (g.state branches.flip)) := by
  have runs := line.passesOver_eq_false (by simp)
  have hkind := line.kind_directive runs g
  rw [step_of_runs runs]
  rcases h : Directive.ofTokens (g.tokens line.raw) <;> rw [h] at hkind <;>
    first | rfl | cases hkind

theorem step_closeIf (line : Line .closeIf) :
    (g.state branches).step line.raw = branches.close.map fun outer => .next (g.state outer) := by
  have runs := line.passesOver_eq_false (by simp)
  have hkind := line.kind_directive runs g
  rw [step_of_runs runs]
  rcases h : Directive.ofTokens (g.tokens line.raw) <;> rw [h] at hkind <;>
    first | rfl | cases hkind

/-! ### Runs -/

theorem run_of_next {state next : State} {raw : String} {rest : List String}
    (h : state.step raw = .ok (.next next)) : state.run (raw :: rest) = next.run rest := by
  rw [State.run, h]

theorem run_closeIf (line : Line .closeIf) {outer : Branches} (h : branches.close = .ok outer)
    (rest : List String) :
    (g.state branches).run (line.raw :: rest) = (g.state outer).run rest := by
  refine run_of_next ?_
  rw [step_closeIf, h]
  rfl

/-- A block in a half that does not run changes nothing. -/
theorem run_lines_of_inactive (block : Block) (hactive : branches.active = false)
    (hskipped : branches.level ≤ branches.nesting) (rest : List String) :
    (g.state branches).run (block.lines ++ rest) = (g.state branches).run rest := by
  induction block generalizing branches rest with
  | done => rfl
  | line ordinary tail ih =>
    rw [Block.lines, List.cons_append, run_of_next (step_ordinary_of_inactive ordinary hactive)]
    exact ih hactive hskipped rest
  | ifThen opening body closing tail ihbody ih =>
    have hinside : branches.skip.level ≤ branches.skip.nesting := Int.le_add_one hskipped
    have hskip : branches.skip.active = false := Branches.active_skip.trans hactive
    simp only [Block.lines, List.cons_append, List.append_assoc]
    rw [run_of_next (step_openIf_of_inactive opening hactive), ihbody hskip hinside,
      run_closeIf closing (Branches.close_skip hskipped), ih hactive hskipped]
  | ifElse opening body middle other closing tail ihbody ihother ih =>
    have hinside : branches.skip.level ≤ branches.skip.nesting := Int.le_add_one hskipped
    have hskip : branches.skip.active = false := Branches.active_skip.trans hactive
    simp only [Block.lines, List.cons_append, List.append_assoc]
    rw [run_of_next (step_openIf_of_inactive opening hactive), ihbody hskip hinside,
      run_of_next (step_otherwise middle), Branches.flip_skip hskipped, ihother hskip hinside,
      run_closeIf closing (Branches.close_skip hskipped), ih hactive hskipped]

/-- What a run comes to behind a block. -/
def resume (ended : Except Fault Ending) (next : Gathered → Except Fault Expansion) :
    Except Fault Expansion :=
  match ended with
  | .error fault => .error fault
  | .ok (.through g) => next g
  | .ok ending => .ok ending.expansion

theorem resume_followedBy (ended : Except Fault Ending)
    (behind : Gathered → Except Fault Ending) (next : Gathered → Except Fault Expansion) :
    resume (followedBy ended behind) next = resume ended fun g => resume (behind g) next := by
  rcases ended with fault | ⟨g | g | g⟩ <;> rfl

/-- What comes behind matters only where a run goes on. -/
theorem resume_congr {ended : Except Fault Ending} {next other : Gathered → Except Fault Expansion}
    (h : ∀ g, ended = .ok (.through g) → next g = other g) :
    resume ended next = resume ended other := by
  rcases ended with fault | ⟨g | g | g⟩
  · rfl
  · exact h g rfl
  · rfl
  · rfl

theorem followedBy_eq_through {ended : Except Fault Ending}
    {behind : Gathered → Except Fault Ending} {g last : Gathered} (h : ended = .ok (.through g))
    (hbehind : behind g = .ok (.through last)) :
    followedBy ended behind = .ok (.through last) := by
  rw [h]
  exact hbehind

theorem finish_state : (g.state branches).finish = (Ending.returned g).expansion := by
  by_cases h : g.flags = []
  · simp [State.finish, Gathered.state, Ending.expansion, h]
  · simp [State.finish, Gathered.state, Ending.expansion, h]

theorem run_ordinary (line : Line .ordinary) (hactive : branches.active = true)
    (rest : List String) :
    (g.state branches).run (line.raw :: rest) =
      resume (.ok (g.runLine line.raw)) fun g => (g.state branches).run rest := by
  rw [State.run, step_ordinary line hactive]
  rcases g.runLine line.raw with g' | g' | g'
  · rfl
  · exact congrArg Except.ok finish_state
  · rfl

theorem run_openIf (line : Line .openIf) (hactive : branches.active = true) {depth : Nat}
    (hlevel : branches.level = depth) (rest : List String) :
    (g.state branches).run (line.raw :: rest) =
      match g.test depth line.raw with
      | .error fault => .error fault
      | .ok (holds, g) => (g.state (branches.enter holds)).run rest := by
  rw [State.run, step_openIf_of_active line hactive hlevel]
  rcases g.test depth line.raw with fault | ⟨holds, g'⟩ <;> rfl

/-- The half of an evaluated `if` that does not run changes nothing. -/
theorem run_half_of_inactive (block : Block) {outer : Branches} {depth : Nat}
    (houter : outer.RunsAt depth) (hdepth : depth < maxDepth)
    (h : branches.Agrees (outer.enter false)) (rest : List String) :
    (g.state branches).run (block.lines ++ rest) = (g.state branches).run rest := by
  have holevel := houter.level
  have honesting := houter.nesting
  refine run_lines_of_inactive block ?_ ?_ rest
  · rw [h.active, Branches.active_enter (by omega)]
  · rw [h.level, h.nesting]
    show outer.level + 1 ≤ outer.nesting + 1
    omega

/-- Behind the `endif` of an evaluated `if` the run goes on as in front of the `if`,
but for slots that are left over. -/
theorem run_closeIf_of_agrees (line : Line .closeIf) {outer : Branches} {outcome : Bool}
    {depth : Nat} (houter : outer.RunsAt depth) (h : branches.Agrees (outer.enter outcome))
    {rest : List String} {ended : Except Fault Expansion}
    (hbehind : ∀ other, other.Agrees outer → (g.state other).run rest = ended) :
    (g.state branches).run (line.raw :: rest) = ended := by
  obtain ⟨other, hclose, hother⟩ := h.close houter
  rw [run_closeIf line hclose]
  exact hbehind other hother

/-- **The run of the lines of a block is the evaluation of the block**, in a half
that runs and in which no skipped `if` is open.  What follows may depend on what has
been gathered, but not on slots that are left over. -/
theorem run_lines (block : Block) {depth : Nat} (hruns : branches.RunsAt depth)
    {rest : List String} {next : Gathered → Except Fault Expansion}
    (hrest : ∀ g' other, block.eval depth g = .ok (.through g') → other.Agrees branches →
      (g'.state other).run rest = next g') :
    (g.state branches).run (block.lines ++ rest) = resume (block.eval depth g) next := by
  induction block generalizing g branches depth rest next with
  | done => exact hrest g branches rfl (.refl branches)
  | line ordinary tail ih =>
    rw [Block.lines, List.cons_append, run_ordinary ordinary hruns.active, Block.eval,
      resume_followedBy]
    refine resume_congr fun g' hline => ih hruns fun g'' other heval h => ?_
    exact hrest g'' other (followedBy_eq_through hline heval) h
  | ifThen opening body closing tail ihbody ih =>
    -- the lines behind the `endif`
    have htail (g' : Gathered) (outer : Branches) (h : outer.Agrees branches)
        (hblock : ∀ g'', tail.eval depth g' = .ok (.through g'') →
          (Block.ifThen opening body closing tail).eval depth g = .ok (.through g'')) :
        (g'.state outer).run (tail.lines ++ rest) = resume (tail.eval depth g') next :=
      ih (hruns.of_agrees h) fun g'' other heval h' => hrest g'' other (hblock g'' heval) (h'.trans h)
    simp only [Block.lines, List.cons_append, List.append_assoc]
    rw [Block.eval] at htail ⊢
    rw [run_openIf opening hruns.active hruns.level]
    rcases htest : g.test depth opening.raw with fault | ⟨- | -, g'⟩
    · rfl
    · -- the condition does not hold
      rw [htest] at htail
      show (g'.state (branches.enter false)).run _ = resume (tail.eval depth g') next
      rw [run_half_of_inactive body hruns (depth_of_test htest) (.refl _)]
      exact run_closeIf_of_agrees closing hruns (.refl _) fun other h => htail g' other h fun _ => id
    · -- the condition holds
      rw [htest] at htail
      show (g'.state (branches.enter true)).run _ = resume (followedBy _ _) next
      rw [resume_followedBy]
      refine ihbody (hruns.enter (depth_of_test htest)) fun g'' inside hbody h => ?_
      refine run_closeIf_of_agrees closing hruns h fun other h' => ?_
      exact htail g'' other h' fun _ heval => followedBy_eq_through hbody heval
  | ifElse opening body middle other closing tail ihbody ihother ih =>
    have htail (g' : Gathered) (outer : Branches) (h : outer.Agrees branches)
        (hblock : ∀ g'', tail.eval depth g' = .ok (.through g'') →
          (Block.ifElse opening body middle other closing tail).eval depth g =
            .ok (.through g'')) :
        (g'.state outer).run (tail.lines ++ rest) = resume (tail.eval depth g') next :=
      ih (hruns.of_agrees h) fun g'' other heval h' => hrest g'' other (hblock g'' heval) (h'.trans h)
    simp only [Block.lines, List.cons_append, List.append_assoc]
    rw [Block.eval] at htail ⊢
    rw [run_openIf opening hruns.active hruns.level]
    rcases htest : g.test depth opening.raw with fault | ⟨- | -, g'⟩
    · rfl
    · -- the condition does not hold
      rw [htest] at htail
      have hdepth := depth_of_test htest
      have hflip := (Branches.Agrees.refl (branches.enter false)).flip hruns hdepth
      show (g'.state (branches.enter false)).run _ = resume (followedBy _ _) next
      rw [run_half_of_inactive body hruns hdepth (.refl _), run_of_next (step_otherwise middle),
        resume_followedBy]
      refine ihother ((hruns.enter hdepth).of_agrees hflip) fun g'' inside hother h => ?_
      refine run_closeIf_of_agrees closing hruns (h.trans hflip) fun outer h' => ?_
      exact htail g'' outer h' fun _ heval => followedBy_eq_through hother heval
    · -- the condition holds
      rw [htest] at htail
      have hdepth := depth_of_test htest
      show (g'.state (branches.enter true)).run _ = resume (followedBy _ _) next
      rw [resume_followedBy]
      refine ihbody (hruns.enter hdepth) fun g'' inside hbody h => ?_
      have hflip := h.flip hruns hdepth
      rw [run_of_next (step_otherwise middle), run_half_of_inactive other hruns hdepth hflip]
      refine run_closeIf_of_agrees closing hruns hflip fun outer h' => ?_
      exact htail g'' outer h' fun _ heval => followedBy_eq_through hbody heval

/-! ### Expansions -/

/-- Behind the last line a run in which no `if` is open comes to its end. -/
theorem run_nil (h : branches.nesting = 0) :
    (g.state branches).run [] = .ok (Ending.through g).expansion := by
  rw [State.run, branches_state, if_pos h]
  exact congrArg Except.ok finish_state

theorem resume_expansion (ended : Except Fault Ending) :
    resume ended (fun g => .ok (Ending.through g).expansion) = ended.map Ending.expansion := by
  rcases ended with fault | ⟨g | g | g⟩ <;> rfl

/-- A run of the lines of a block from the start is the evaluation of the block. -/
theorem run_block (block : Block) (scope : Scope) :
    ({ scope } : State).run block.lines = block.expansion scope := by
  let g : Gathered := { scope }
  have hrun : (g.state .start).run (block.lines ++ []) =
      resume (block.eval 0 g) fun g => .ok (Ending.through g).expansion :=
    run_lines block ⟨rfl, rfl, rfl⟩ fun _ other _ h => run_nil h.nesting
  rwa [List.append_nil, resume_expansion] at hrun

end SqlNotebook.Macro

namespace SqlNotebook.MacroTable

open Macro

/-- **Expanding a call of a macro with a well nested body is evaluating the body
as a tree**, with the variables of the call: the same text, flags, notices and
marks, or the same fault. -/
theorem expand_eq_expansion (table : MacroTable) (instruction name : String) (block : Block)
    (hcalled : table.called? instruction = some ⟨name, block.lines⟩) :
    table.expand instruction =
      (block.expansion (Call.ofInstruction instruction).scope).mapError
        fun fault => .structural fault.message instruction := by
  have hrun := run_block block (Call.ofInstruction instruction).scope
  rw [expand, hcalled]
  exact congrArg (Except.mapError fun fault => Error.structural fault.message instruction) hrun

/-- A skipped `if` without operands inside of an evaluated one, and an `else` on
either level. -/
def nestedBlock : Block :=
  .ifElse ⟨"if {1} == a", rfl, by decide⟩
    (.line ⟨"var x {2}", rfl, by decide⟩
      (.ifThen ⟨"if {x} ~ b", rfl, by decide⟩
        (.ifElse ⟨"if", rfl, by decide⟩
          (.line ⟨"exit inside", rfl, by decide⟩ .done) ⟨"else", rfl, by decide⟩
          (.line ⟨"flags -a", rfl, by decide⟩ .done) ⟨"endif", rfl, by decide⟩ .done)
        ⟨"endif", rfl, by decide⟩ (.line ⟨"SELECT {x}", rfl, by decide⟩ .done)))
    ⟨"  else", rfl, by decide⟩ (.line ⟨"return", rfl, by decide⟩ .done) ⟨"endif", rfl, by decide⟩
    (.line ⟨"# end", rfl, by decide⟩ .done)

/-- The table with the macro `T` for this block. -/
def nestedTable : MacroTable :=
  MacroTable.add Dictionary.empty ⟨"T", nestedBlock.lines⟩

theorem expand_nestedTable :
    nestedTable.called? "t a c" = some ⟨"T", nestedBlock.lines⟩ ∧
      nestedTable.expand "t a c" =
        .ok
          { text := "SELECT c"
            notices := [.error "Unknown comparison operator in the if statement: ~"]
            expanded := true } :=
  ⟨rfl, (expand_eq_expansion nestedTable "t a c" "T" nestedBlock rfl).trans rfl⟩

end SqlNotebook.MacroTable
