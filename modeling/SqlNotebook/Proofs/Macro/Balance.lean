/-
SqlNotebook/Proofs/Macro/Balance.lean

When the `if` and `endif` lines of a body match.  A run finds out at two places, at an
`endif` and behind the last line, by comparing two counters, which evaluated and skipped
`if` lines move in different ways.  From outside it is the counting of brackets: in no
front of the body are there more `endif` lines than `if` lines, and in all of it there are
as many of the ones as of the others.  The greater of the counters carries this.  Whether a
line runs or not,

    nesting behind a line  =  nesting in front of it  +  1 for `if`  -  1 for `endif`

so a run that nothing else brings to a stop comes to its end exactly if the body is
balanced, and it fails with an unmatched pair exactly if not (`run_of_stopsIn`).
-/
import SqlNotebook.Proofs.Macro.Enclosing

namespace SqlNotebook.Macro

/-! ### Counting lines -/

/-- The kind of a line, by its first token. -/
def LineKind.ofLine (raw : String) : LineKind :=
  .ofToken? (firstToken? raw)

/-- The number of lines of a kind. -/
def LineKind.count (kind : LineKind) (lines : List String) : Nat :=
  lines.countP fun raw => LineKind.ofLine raw = kind

/-- The first token of the line is fixed text. -/
def FixedLine (raw : String) : Prop :=
  ∀ token ∈ firstToken? raw, '{' ∉ token.toList

instance (raw : String) : Decidable (FixedLine raw) :=
  inferInstanceAs (Decidable (∀ token ∈ firstToken? raw, '{' ∉ token.toList))

/-- The line, with its kind. -/
def FixedLine.line {raw : String} (h : FixedLine raw) : Line (LineKind.ofLine raw) :=
  ⟨raw, by rw [LineKind.ofLine], h⟩

/-- The `if` and `endif` lines match, where `depth` more `if` lines are open in front. -/
structure Balanced (depth : Nat) (lines : List String) : Prop where
  /-- No front has more `endif` lines than there are `if` lines for them. -/
  front : ∀ front, front <+: lines →
    LineKind.closeIf.count front ≤ depth + LineKind.openIf.count front
  /-- In the end no `if` is open. -/
  total : LineKind.closeIf.count lines = depth + LineKind.openIf.count lines

variable {raw : String} {rest : List String} {depth : Nat}

theorem count_cons (kind : LineKind) (raw : String) (rest : List String) :
    kind.count (raw :: rest) = kind.count [raw] + kind.count rest := by
  rw [LineKind.count, ← List.singleton_append, List.countP_append]
  rfl

theorem count_singleton (kind : LineKind) (raw : String) :
    kind.count [raw] = if LineKind.ofLine raw = kind then 1 else 0 := by
  simp [LineKind.count, List.countP_cons]

theorem balanced_nil_iff : Balanced depth [] ↔ depth = 0 := by
  refine ⟨fun h => (h.total.trans (Nat.add_zero depth)).symm, ?_⟩
  rintro rfl
  exact ⟨fun front hfront => by rw [List.prefix_nil.mp hfront]; exact Nat.le_refl _, rfl⟩

/-- A line in front: an `if` opens one more, and an `endif` needs one that is open. -/
theorem balanced_cons_iff (inside : Nat)
    (h : inside + LineKind.closeIf.count [raw] = depth + LineKind.openIf.count [raw]) :
    Balanced depth (raw :: rest) ↔ Balanced inside rest := by
  constructor
  · rintro ⟨hfront, htotal⟩
    refine ⟨fun front hprefix => ?_, ?_⟩
    · have hmore := hfront (raw :: front) (List.cons_prefix_cons.mpr ⟨rfl, hprefix⟩)
      rw [count_cons, count_cons .openIf] at hmore
      omega
    · rw [count_cons, count_cons .openIf] at htotal
      omega
  · rintro ⟨hfront, htotal⟩
    refine ⟨fun front hprefix => ?_, ?_⟩
    · rcases List.prefix_cons_iff.mp hprefix with rfl | ⟨behind, rfl, hbehind⟩
      · exact Nat.zero_le _
      · have hmore := hfront behind hbehind
        rw [count_cons, count_cons .openIf]
        omega
    · rw [count_cons, count_cons .openIf]
      omega

/-- An `endif` for which no `if` is open. -/
theorem not_balanced_cons_of_closeIf (h : LineKind.ofLine raw = .closeIf) :
    ¬ Balanced 0 (raw :: rest) := by
  rintro ⟨hfront, -⟩
  have hfirst := hfront [raw] (List.prefix_append [raw] rest)
  rw [count_singleton, count_singleton, h] at hfirst
  exact absurd hfirst (by decide)

/-! ### What the kind of a line says about the counters -/

/-- The kind of the lines that mean a move. -/
def Move.kind : Move → LineKind
  | .stay => .ordinary
  | .openIf _ => .openIf
  | .otherwise => .otherwise
  | .closeIf => .closeIf

variable {state : State} {step : Step}

theorem kind_moveOf (state : State) (directive : Directive) :
    (state.moveOf directive).kind = directive.kind := by
  cases directive <;> rfl

/-- What a line means is of the kind of the line, with any variables. -/
theorem kind_move (state : State) (hfixed : FixedLine raw) :
    (state.move raw).kind = LineKind.ofLine raw := by
  rw [State.move]
  rcases runs : State.passesOver (Text.trim raw) with - | -
  · rw [if_neg Bool.false_ne_true, kind_moveOf]
    exact hfixed.line.kind_directive runs state.gathered
  · simp [LineKind.ofLine, firstToken?, runs, Move.kind, LineKind.ofToken?]

theorem nesting_carry {b later : Branches} {move : Move} (h : b.carry move = .ok later) :
    later.nesting + (if move.kind = .closeIf then 1 else 0) =
      b.nesting + if move.kind = .openIf then 1 else 0 := by
  cases move with
  | stay =>
    cases h
    rfl
  | openIf holds =>
    cases h
    show Branches.nesting (if b.active then _ else _) + 0 = b.nesting + 1
    split <;> exact Int.add_zero _
  | otherwise =>
    cases h
    show b.flip.nesting + 0 = b.nesting + 0
    rw [Branches.flip]
    split <;> rfl
  | closeIf =>
    rw [Branches.carry, Branches.close] at h
    show later.nesting + 1 = b.nesting + 0
    split at h
    · split at h <;> cases h
      show b.nesting - 1 + 1 = _
      omega
    · cases h
      show b.nesting - 1 + 1 = _
      omega

/-- **The greater counter counts brackets**, whether lines run or not. -/
theorem nesting_step (hfixed : FixedLine raw) (h : state.step raw = .ok step) :
    step.state.branches.nesting + LineKind.closeIf.count [raw] =
      state.branches.nesting + LineKind.openIf.count [raw] := by
  have hnesting := nesting_carry (State.carry_of_step h).1
  rw [kind_move state hfixed] at hnesting
  rw [count_singleton, count_singleton]
  generalize LineKind.ofLine raw = kind at hnesting ⊢
  cases kind <;> exact hnesting

/-! ### Lines that bring a run to a stop -/

/-- A directive that ends the macro where lines run, or that fails there by itself: an `if`
without enough operands, or at the last level. -/
def Directive.stops (level : Int) : Directive → Bool
  | .exit _ | .return => true
  | .openIf condition => condition.isNone || level = (maxDepth : Int)
  | _ => false

namespace State

/-- Whether lines run, and the given one brings the run to a stop. -/
def stopsAt (state : State) (raw : String) : Bool :=
  state.branches.active && !passesOver (Text.trim raw) &&
    (state.directive (Text.trim raw)).stops state.branches.level

/-- Whether a run of the lines comes to one that brings it to a stop. -/
def stopsIn (state : State) : List String → Bool
  | [] => false
  | raw :: rest =>
    state.stopsAt raw ||
      match state.step raw with
      | .ok (.next state) => state.stopsIn rest
      | _ => false

end State

/-- Where nothing stops it, only an `endif` can fail. -/
theorem perform_of_not_stops (h : state.branches.WellFormed) (line : String) {directive : Directive}
    (hgoes : state.branches.active = true → directive.stops state.branches.level = false) :
    (∃ later, state.perform line directive = .ok (.next later)) ∨
      (state.perform line directive = .error .unmatched ∧ directive.kind = .closeIf ∧
        state.branches.nesting = 0) := by
  cases directive with
  | openIf condition =>
    refine .inl ?_
    rcases hactive : state.branches.active with - | -
    · exact ⟨_, by simp [State.perform, State.openIf, hactive, Except.map]; rfl⟩
    · have hstops := hgoes hactive
      simp only [Directive.stops, Bool.or_eq_false_iff, decide_eq_false_iff_not] at hstops
      have hlevel := h.level_le
      have hdeep : ¬ (maxDepth : Int) ≤ state.branches.level := by omega
      rcases condition with - | condition
      · cases hstops.1
      · exact ⟨_, by simp [State.perform, State.openIf, hactive, hdeep, Except.map]; rfl⟩
  | otherwise => exact .inl ⟨_, rfl⟩
  | closeIf =>
    rcases h.close with ⟨hnesting, hfails⟩ | ⟨-, outer, hclose, -⟩
    · exact .inr ⟨by rw [State.perform, hfails]; rfl, rfl, hnesting⟩
    · exact .inl ⟨_, by rw [State.perform, hclose]; rfl⟩
  | exit | «return» =>
    rcases hactive : state.branches.active with - | -
    · exact .inl ⟨state, by simp [State.perform, hactive]⟩
    · cases hgoes hactive
  | var name words =>
    refine .inl ?_
    rcases hactive : state.branches.active with - | - <;> rcases name with - | name <;>
      exact ⟨_, by simp [State.perform, hactive]; rfl⟩
  | _ =>
    refine .inl ?_
    rcases hactive : state.branches.active with - | - <;>
      exact ⟨_, by simp [State.perform, hactive]; rfl⟩

theorem step_of_not_stopsAt (h : state.branches.WellFormed) (hfixed : FixedLine raw)
    (hgoes : state.stopsAt raw = false) :
    (∃ later, state.step raw = .ok (.next later)) ∨
      (state.step raw = .error .unmatched ∧ LineKind.ofLine raw = .closeIf ∧
        state.branches.nesting = 0) := by
  rw [← kind_move state hfixed, State.step, State.move]
  rcases runs : State.passesOver (Text.trim raw) with - | -
  · simp only [Bool.false_eq_true, if_false, kind_moveOf]
    refine perform_of_not_stops h _ fun hactive => ?_
    simpa [State.stopsAt, hactive, runs] using hgoes
  · exact .inl ⟨state, rfl⟩

/-! ### Runs -/

/-- **A run that nothing else brings to a stop** comes to its end if the lines are balanced,
and fails with an unmatched pair if they are not. -/
theorem run_of_stopsIn (h : state.branches.WellFormed) (hnesting : state.branches.nesting = depth)
    {lines : List String} (hfixed : ∀ raw ∈ lines, FixedLine raw)
    (hgoes : state.stopsIn lines = false) :
    (Balanced depth lines ∧ ∃ expansion, state.run lines = .ok expansion) ∨
      (¬ Balanced depth lines ∧ state.run lines = .error .unmatched) := by
  induction lines generalizing state depth with
  | nil =>
    rw [balanced_nil_iff, State.run]
    by_cases hzero : state.branches.nesting = 0
    · exact .inl ⟨by omega, _, if_pos hzero⟩
    · exact .inr ⟨by omega, if_neg hzero⟩
  | cons raw rest ih =>
    rw [State.stopsIn, Bool.or_eq_false_iff] at hgoes
    obtain ⟨hhere, hbehind⟩ := hgoes
    have hraw := hfixed raw List.mem_cons_self
    rcases step_of_not_stopsAt h hraw hhere with ⟨later, hstep⟩ | ⟨hstep, hkind, hzero⟩
    · -- the lines behind it are balanced with what is open then
      obtain ⟨hcarry, hlevel⟩ := State.carry_of_step hstep
      have hlater : later.branches.WellFormed := (h.carry hcarry hlevel).1
      have hcounts : later.branches.nesting + _ = _ := nesting_step hraw hstep
      have hnonneg := hlater.level_nonneg
      have hopen := hlater.level_le_nesting
      rw [hstep] at hbehind
      rw [run_of_next hstep,
        balanced_cons_iff later.branches.nesting.toNat (by omega)]
      exact ih hlater (by omega) (fun other hother => hfixed other (List.mem_cons_of_mem _ hother))
        hbehind
    · -- no `if` is open for this `endif`
      obtain rfl : depth = 0 := by omega
      exact .inr ⟨not_balanced_cons_of_closeIf hkind, by rw [State.run, hstep]⟩

end SqlNotebook.Macro

namespace SqlNotebook.MacroTable

open Macro

/-- **Faults are unbalanced lines.**  If nothing else brings the run of a macro to a stop, its
call can be expanded exactly if the `if` and `endif` lines of the body are balanced, and
otherwise the error names the instruction as it was given. -/
theorem expand_iff_balanced (table : MacroTable) {instruction name : String} {body : List String}
    (hcalled : table.called? instruction = some ⟨name, body⟩)
    (hfixed : ∀ raw ∈ body, FixedLine raw)
    (hgoes : State.stopsIn { scope := (Call.ofInstruction instruction).scope } body = false) :
    ((∃ expansion, table.expand instruction = .ok expansion) ↔ Balanced 0 body) ∧
      (¬ Balanced 0 body →
        table.expand instruction = .error (.structural Fault.unmatched.message instruction)) := by
  have hexpand : table.expand instruction = Except.mapError
      (fun fault => .structural fault.message instruction)
      (State.run { scope := (Call.ofInstruction instruction).scope } body) := by
    rw [expand, hcalled]
  rcases run_of_stopsIn Branches.wellFormed_start rfl hfixed hgoes with
    ⟨hbalanced, expansion, hrun⟩ | ⟨hbalanced, hrun⟩
  · rw [hrun] at hexpand
    exact ⟨⟨fun _ => hbalanced, fun _ => ⟨expansion, hexpand⟩⟩, absurd hbalanced⟩
  · rw [hrun] at hexpand
    refine ⟨⟨?_, fun h => absurd h hbalanced⟩, fun _ => hexpand⟩
    rintro ⟨expansion, hsome⟩
    cases hsome.symm.trans hexpand

/-- A body with a skipped `if` without operands, and with an `else` outside of every `if`. -/
def matchedBody : List String :=
  ["if {1} == a", "else", "if", "exit {2}", "else", "endif", "endif", "else", "SELECT {2}"]

/-- The table with the macro `T` for this body, and with a macro `U` in which an `endif` comes
too early. -/
def matchedTable : MacroTable :=
  (MacroTable.add Dictionary.empty ⟨"T", matchedBody⟩).add
    ⟨"U", matchedBody ++ ["endif", "if a == a"]⟩

theorem expand_iff_balanced_matched :
    matchedTable.called? "t a b" = some ⟨"T", matchedBody⟩ ∧ Balanced 0 matchedBody ∧
      matchedTable.called? "u a b" = some ⟨"U", matchedBody ++ ["endif", "if a == a"]⟩ ∧
      ¬ Balanced 0 (matchedBody ++ ["endif", "if a == a"]) := by
  have hT : matchedTable.called? "t a b" = some ⟨"T", matchedBody⟩ := rfl
  have hU : matchedTable.called? "u a b" =
    some ⟨"U", matchedBody ++ ["endif", "if a == a"]⟩ := rfl
  refine ⟨hT, ?_, hU, fun hbalanced => ?_⟩
  · exact (expand_iff_balanced matchedTable hT (by decide) rfl).1.mp ⟨_, rfl⟩
  · obtain ⟨expansion, hexpand⟩ :=
      (expand_iff_balanced matchedTable hU (by decide) rfl).1.mpr hbalanced
    cases hexpand

end SqlNotebook.MacroTable
