/-
SqlNotebook/Proofs/Macro/Enclosing.lean

What a line of a macro stands inside of.  Around every line there is the body of the
macro, and then the `if` lines that are open, each of which has been evaluated or been
skipped.  These are the frames of the line, the innermost one first:

    if a == a           body
        if a == b       body, if (runs)
            if          body, if (runs), if (does not run)
                X       body, if (runs), if (does not run), skipped

Frames follow from what the lines in front say (`Frames.next`), without any counting, and
a line is to run if every evaluated frame around it runs.  The two counters and the slots
of a run are an encoding of them.  They are well formed if they fit each other, as five
conditions say; then they stand for frames (`Branches.frames`), and what a line does to
them, it does to the frames that they stand for:

    frames (carry b move)  =  next (frames b) move

So at every point that a run reaches, the counters and slots are well formed and stand for
the frames of that point (`Reaches.shows`).
-/
import SqlNotebook.Proofs.Macro.Nesting

namespace SqlNotebook.Macro

/-! ### Frames -/

/-- Something that a line stands inside of. -/
inductive Frame
  /-- The body of the macro, or an `if` that has been evaluated, with whether the lines of the
  half at hand run as far as it goes. -/
  | evaluated (runs : Bool)
  /-- An `if` that has been skipped. -/
  | skipped
deriving DecidableEq, Repr

/-- What a line means for the frames of the next one. -/
inductive Move
  | stay
  | openIf (holds : Bool)
  | otherwise
  | closeIf
deriving DecidableEq, Repr

/-- What a line stands inside of, the innermost frame first. -/
abbrev Frames := List Frame

namespace Frames

/-- The frames of the first line: it stands in the body. -/
def start : Frames := [.evaluated true]

/-- Whether lines run here: every evaluated frame runs. -/
def run (frames : Frames) : Bool :=
  frames.all (· ≠ .evaluated false)

/-- The frames behind a line.  An `if` is evaluated where lines run, and an `else` goes over to
the other half of the innermost frame, if that has been evaluated. -/
def next (frames : Frames) : Move → Frames
  | .stay => frames
  | .openIf holds => (if frames.run then .evaluated holds else .skipped) :: frames
  | .otherwise =>
    match frames with
    | .evaluated runs :: outer => .evaluated (!runs) :: outer
    | _ => frames
  | .closeIf => frames.tail

end Frames

/-! ### Well formed counters and slots -/

namespace Branches

/-- Counters and slots that fit each other. -/
structure WellFormed (b : Branches) : Prop where
  level_nonneg : 0 ≤ b.level
  level_le : b.level ≤ maxDepth
  level_le_nesting : b.level ≤ b.nesting
  /-- Inside of an evaluated `if`, the lines around it run. -/
  below : ∀ level, 0 ≤ level → level < b.level → b.slot level = true
  /-- Inside of a skipped `if`, lines do not run. -/
  skipped : b.level < b.nesting → b.slot b.level = false

/-- The frames that counters and slots stand for. -/
def frames (b : Branches) : Frames :=
  List.replicate (b.nesting - b.level).toNat .skipped ++
    .evaluated b.active :: List.replicate b.level.toNat (.evaluated true)

/-- What becomes of counters and slots behind a line. -/
def carry (b : Branches) : Move → Except Fault Branches
  | .stay => .ok b
  | .openIf holds => .ok (if b.active then b.enter holds else b.skip)
  | .otherwise => .ok b.flip
  | .closeIf => b.close

variable {b later : Branches}

theorem wellFormed_start : WellFormed start where
  level_nonneg := Int.le_refl 0
  level_le := by decide
  level_le_nesting := Int.le_refl 0
  below level hlow hhigh := absurd hhigh (Int.not_lt.mpr hlow)
  skipped h := absurd h (Int.lt_irrefl 0)

theorem frames_start : frames start = .start := rfl

/-- Lines run where every evaluated frame runs. -/
theorem run_frames (b : Branches) : b.frames.run = b.active := by
  rcases h : b.active with - | - <;> simp [frames, Frames.run, h]

/-- Where lines run, no skipped `if` is open. -/
theorem WellFormed.nesting_eq (h : b.WellFormed) (hactive : b.active = true) :
    b.nesting = b.level := by
  rcases Int.lt_or_eq_of_le h.level_le_nesting with hlt | heq
  · rw [active, h.skipped hlt] at hactive
    cases hactive
  · exact heq.symm

/-- Without skipped `if` lines the innermost frame has been evaluated. -/
theorem frames_of_nesting_eq (h : b.nesting = b.level) :
    b.frames = .evaluated b.active :: List.replicate b.level.toNat (.evaluated true) := by
  simp [frames, h]

/-- One of the skipped `if` lines is the innermost frame. -/
theorem frames_of_level_lt (h : b.level < b.nesting) :
    ∃ outer, b.frames = .skipped :: outer := by
  obtain ⟨count, hcount⟩ : ∃ count, (b.nesting - b.level).toNat = count + 1 :=
    ⟨(b.nesting - b.level).toNat - 1, by omega⟩
  exact ⟨_, by rw [frames, hcount, List.replicate_succ, List.cons_append]⟩

/-! ### What each line does to them -/

theorem WellFormed.skip (h : b.WellFormed) (hactive : b.active = false) : b.skip.WellFormed where
  level_nonneg := h.level_nonneg
  level_le := h.level_le
  level_le_nesting := Int.le_add_one h.level_le_nesting
  below := h.below
  skipped _ := hactive

theorem frames_skip (h : b.WellFormed) : b.skip.frames = .skipped :: b.frames := by
  have hnesting := h.level_le_nesting
  have hcount : (b.nesting + 1 - b.level).toNat = (b.nesting - b.level).toNat + 1 := by omega
  rw [frames, frames, active_skip]
  show List.replicate (b.nesting + 1 - b.level).toNat _ ++ _ = _
  rw [hcount, List.replicate_succ, List.cons_append]
  rfl

theorem WellFormed.enter (h : b.WellFormed) (hactive : b.active = true)
    (hdepth : b.level < maxDepth) (holds : Bool) : (b.enter holds).WellFormed where
  level_nonneg := Int.le_add_one h.level_nonneg
  level_le := by show b.level + 1 ≤ _; omega
  level_le_nesting := by
    show b.level + 1 ≤ b.nesting + 1
    have := h.level_le_nesting
    omega
  below level hlow hhigh := by
    have hhigh : level < b.level + 1 := hhigh
    have hnonneg := h.level_nonneg
    have hslot : (b.enter holds).slot level = b.slot level :=
      slot_setSlot_of_lt hhigh (by omega) holds
    rw [hslot]
    rcases Int.lt_or_eq_of_le (Int.le_of_lt_add_one hhigh) with hlt | rfl
    · exact h.below level hlow hlt
    · exact hactive
  skipped hskipped := by
    have hskipped : b.level + 1 < b.nesting + 1 := hskipped
    have := h.nesting_eq hactive
    omega

theorem frames_enter (h : b.WellFormed) (hactive : b.active = true) (hdepth : b.level < maxDepth)
    (holds : Bool) : (b.enter holds).frames = .evaluated holds :: b.frames := by
  have hnonneg := h.level_nonneg
  have hnesting := h.nesting_eq hactive
  have hentered : (b.enter holds).nesting = (b.enter holds).level := by
    show b.nesting + 1 = b.level + 1
    rw [hnesting]
  have hcount : (b.enter holds).level.toNat = b.level.toNat + 1 := by
    show (b.level + 1).toNat = _
    omega
  rw [frames_of_nesting_eq hentered, frames_of_nesting_eq hnesting, hcount, hactive,
    active_enter hdepth, List.replicate_succ]

theorem WellFormed.flip (h : b.WellFormed) : b.flip.WellFormed := by
  rw [Branches.flip]
  split
  · -- only the slot of the level is written, and no skipped `if` is open
    rename_i hown
    refine ⟨h.level_nonneg, h.level_le, h.level_le_nesting, fun level hlow hhigh => ?_, fun hlt => ?_⟩
    · have hlevel : level < b.level := hhigh
      rw [slot_setSlot_of_lt hlevel (by omega)]
      exact h.below level hlow hlevel
    · have hlt : b.level < b.nesting := hlt
      omega
  · exact h

theorem frames_flip (h : b.WellFormed) : b.flip.frames = b.frames.next .otherwise := by
  rcases Int.lt_or_eq_of_le h.level_le_nesting with hlt | heq
  · obtain ⟨outer, houter⟩ := frames_of_level_lt hlt
    rw [Branches.flip, if_neg (by omega), houter]
    rfl
  · have hactive : (b.setSlot b.level !b.active).active = !b.active :=
      slot_setSlot_self h.level_le _
    rw [Branches.flip, if_pos heq.symm, frames_of_nesting_eq heq.symm,
      frames_of_nesting_eq (b := b.setSlot b.level !b.active) heq.symm, hactive]
    rfl

/-- An `endif` fails exactly where no `if` is open, and otherwise ends the innermost frame. -/
theorem WellFormed.close (h : b.WellFormed) :
    (b.nesting = 0 ∧ b.close = .error .unmatched) ∨
      (0 < b.nesting ∧ ∃ outer, b.close = .ok outer ∧ outer.WellFormed ∧
        outer.nesting = b.nesting - 1 ∧ outer.frames = b.frames.tail) := by
  have hnonneg := h.level_nonneg
  rcases Int.lt_or_eq_of_le h.level_le_nesting with hlt | heq
  · -- the innermost `if` has been skipped
    have hclose : b.close = .ok { b with nesting := b.nesting - 1 } := by
      rw [Branches.close, if_neg (by omega)]
    refine .inr ⟨by omega, _, hclose, ?_, rfl, ?_⟩
    · exact ⟨hnonneg, h.level_le, Int.le_sub_one_of_lt hlt, h.below, fun _ => h.skipped hlt⟩
    · have hcount : (b.nesting - b.level).toNat = (b.nesting - 1 - b.level).toNat + 1 := by omega
      rw [frames, frames, hcount, List.replicate_succ, List.cons_append, List.tail_cons]
      rfl
  · rcases Int.lt_or_eq_of_le hnonneg with hpos | hzero
    · -- the innermost `if` has been evaluated, where lines ran
      have hclose : b.close = .ok { b with level := b.level - 1, nesting := b.nesting - 1 } := by
        rw [Branches.close, if_pos (by omega), if_neg (by omega)]
      have hactive : b.slot (b.level - 1) = true := h.below _ (by omega) (by omega)
      refine .inr ⟨by omega, _, hclose, ?_, rfl, ?_⟩
      · refine ⟨by show 0 ≤ b.level - 1; omega, ?_, ?_, fun level hlow hhigh => ?_, fun hlt => ?_⟩
        · have := h.level_le
          show b.level - 1 ≤ _
          omega
        · show b.level - 1 ≤ b.nesting - 1
          omega
        · have hhigh : level < b.level - 1 := hhigh
          exact h.below level hlow (by omega)
        · have hlt : b.level - 1 < b.nesting - 1 := hlt
          omega
      · have hcount : b.level.toNat = (b.level - 1).toNat + 1 := by omega
        rw [frames_of_nesting_eq heq.symm, List.tail_cons, hcount, List.replicate_succ,
          frames_of_nesting_eq (by show b.nesting - 1 = b.level - 1; omega)]
        show Frame.evaluated (b.slot (b.level - 1)) :: _ = _
        rw [hactive]
    · refine .inl ⟨by omega, ?_⟩
      rw [Branches.close, if_pos (by omega), if_pos (by omega)]

end Branches

/-! ### Runs -/

/-- The state behind a line that has been carried out. -/
def Step.state : Step → State
  | .next state | .return state | .exit state => state

namespace State

/-- What has been gathered in a state. -/
def gathered (state : State) : Gathered :=
  ⟨state.scope, state.flags, state.output, state.notices⟩

/-- What a directive means at this moment for the frames of the next line.  An `if` without a
condition is never evaluated. -/
def moveOf (state : State) : Directive → Move
  | .openIf condition => .openIf (condition.any fun condition => (state.decideCondition condition).1)
  | .otherwise => .otherwise
  | .closeIf => .closeIf
  | _ => .stay

/-- What a line means at this moment for the frames of the next one. -/
def move (state : State) (raw : String) : Move :=
  if passesOver (Text.trim raw) then .stay else state.moveOf (state.directive (Text.trim raw))

variable {state : State} {raw line : String} {directive : Directive} {step : Step}

theorem moveOf_of_ordinary (hkind : directive.kind = .ordinary) :
    state.moveOf directive = .stay := by
  cases directive with
  | openIf | otherwise | closeIf => cases hkind
  | _ => rfl

theorem branches_step (ending : Ending) (branches : Branches) :
    (ending.step branches).state.branches = branches := by
  cases ending <;> rfl

/-- Where lines run or not, an ordinary line has no part in the nesting. -/
theorem exists_perform_of_ordinary (state : State) (line : String)
    (hkind : directive.kind = .ordinary) :
    ∃ ending : Ending, state.perform line directive = .ok (ending.step state.branches) := by
  rcases hactive : state.branches.active with - | -
  · exact ⟨.through state.gathered, perform_of_inactive (g := state.gathered) hactive line hkind⟩
  · exact ⟨state.gathered.carryOut line directive, perform_of_active (g := state.gathered) hactive line hkind⟩

/-- An `if` is evaluated where lines run, and only if there is a level left for it. -/
theorem carry_of_openIf {condition : Option Condition} {later : State}
    (h : state.openIf condition = .ok later) :
    state.branches.carry (state.moveOf (.openIf condition)) = .ok later.branches ∧
      (state.branches.active = true → state.branches.level < maxDepth) := by
  rcases hactive : state.branches.active with - | -
  · simp only [openIf, hactive, Bool.not_false, if_true] at h
    cases h
    exact ⟨by simp [Branches.carry, moveOf, hactive], by rintro ⟨⟩⟩
  · simp only [openIf, hactive, Bool.not_true, Bool.false_eq_true, if_false] at h
    by_cases hdeep : (maxDepth : Int) ≤ state.branches.level
    · rw [if_pos hdeep] at h
      cases h
    · rw [if_neg hdeep] at h
      rcases condition with - | condition
      · cases h
      · cases h
        exact ⟨by simp [Branches.carry, moveOf, hactive], fun _ => by omega⟩

theorem carry_of_perform (h : state.perform line directive = .ok step) :
    state.branches.carry (state.moveOf directive) = .ok step.state.branches ∧
      ∀ condition, directive = .openIf condition → state.branches.active = true →
        state.branches.level < maxDepth := by
  cases hkind : directive.kind with
  | ordinary =>
    obtain ⟨ending, hperform⟩ := exists_perform_of_ordinary state line hkind
    rw [hperform] at h
    cases h
    rw [moveOf_of_ordinary hkind, branches_step]
    refine ⟨rfl, ?_⟩
    rintro condition rfl
    cases hkind
  | openIf =>
    cases directive with
    | openIf condition =>
      rw [perform] at h
      rcases hopen : state.openIf condition with fault | later
      · rw [hopen] at h
        cases h
      · rw [hopen] at h
        cases h
        obtain ⟨hcarry, hlevel⟩ := carry_of_openIf hopen
        exact ⟨hcarry, fun _ _ => hlevel⟩
    | _ => cases hkind
  | otherwise =>
    cases directive with
    | otherwise =>
      cases h
      exact ⟨rfl, by rintro _ ⟨⟩⟩
    | _ => cases hkind
  | closeIf =>
    cases directive with
    | closeIf =>
      rw [perform] at h
      rcases hclose : state.branches.close with fault | outer
      · rw [hclose] at h
        cases h
      · rw [hclose] at h
        cases h
        exact ⟨hclose, by rintro _ ⟨⟩⟩
    | _ => cases hkind

/-- **What a line does to the counters and slots**: it carries them over to the next line. -/
theorem carry_of_step (h : state.step raw = .ok step) :
    state.branches.carry (state.move raw) = .ok step.state.branches ∧
      ∀ holds, state.move raw = .openIf holds → state.branches.active = true →
        state.branches.level < maxDepth := by
  rw [State.step] at h
  rw [move]
  by_cases hpasses : passesOver (Text.trim raw)
  · simp only [hpasses, if_true] at h ⊢
    cases h
    exact ⟨rfl, by rintro _ ⟨⟩⟩
  · simp only [hpasses, Bool.false_eq_true, if_false] at h ⊢
    obtain ⟨hcarry, hlevel⟩ := carry_of_perform h
    refine ⟨hcarry, fun holds hmove => ?_⟩
    cases hline : state.directive (Text.trim raw) with
    | openIf condition => exact hlevel condition hline
    | _ =>
      rw [hline] at hmove
      cases hmove

end State

/-- The points of a run: the lines `done` have been carried out, the macro goes on in `state`,
and `frames` are those of the next line, by what the lines have said. -/
inductive Reaches (start : State) : (done : List String) → State → Frames → Prop
  | start : Reaches start [] start .start
  | next {done : List String} {state later : State} {frames : Frames} {raw : String}
      (h : Reaches start done state frames) (hstep : state.step raw = .ok (.next later)) :
      Reaches start (done ++ [raw]) later (frames.next (state.move raw))

namespace Branches

variable {b later : Branches} {move : Move}

/-- **One line**: counters and slots stay well formed, and what the line does to them it does to
the frames that they stand for. -/
theorem WellFormed.carry (h : b.WellFormed) (hcarry : b.carry move = .ok later)
    (hlevel : ∀ holds, move = .openIf holds → b.active = true → b.level < maxDepth) :
    later.WellFormed ∧ later.frames = b.frames.next move ∧ later.nesting ≤ b.nesting + 1 := by
  cases move with
  | stay =>
    cases hcarry
    exact ⟨h, rfl, Int.le_add_one (Int.le_refl _)⟩
  | openIf holds =>
    obtain rfl : (if b.active then b.enter holds else b.skip) = later := Except.ok.inj hcarry
    rw [Frames.next, run_frames]
    rcases hactive : b.active with - | -
    · exact ⟨h.skip hactive, frames_skip h, Int.le_refl _⟩
    · have hdepth := hlevel holds rfl hactive
      exact ⟨h.enter hactive hdepth holds, frames_enter h hactive hdepth holds, Int.le_refl _⟩
  | otherwise =>
    cases hcarry
    refine ⟨h.flip, frames_flip h, Int.le_add_one (Int.le_of_eq ?_)⟩
    rw [Branches.flip]
    split <;> rfl
  | closeIf =>
    rcases h.close with ⟨-, hfails⟩ | ⟨-, outer, hclose, houter, hnesting, hframes⟩
    · rw [Branches.carry, hfails] at hcarry
      cases hcarry
    · rw [Branches.carry, hclose] at hcarry
      cases hcarry
      exact ⟨houter, hframes, by omega⟩

end Branches

variable {start state later : State} {done : List String} {frames : Frames} {raw : String}
  {step : Step}

/-- **Every line of a run**: at the points that a run reaches, the counters and slots are well
formed, and they stand for the frames of the point. -/
theorem Reaches.shows (hstart : start.branches = .start) (h : Reaches start done state frames) :
    state.branches.WellFormed ∧ state.branches.frames = frames ∧
      state.branches.nesting ≤ done.length := by
  induction h with
  | start =>
    rw [hstart]
    exact ⟨Branches.wellFormed_start, Branches.frames_start, Int.le_refl 0⟩
  | next _ hstep ih =>
    obtain ⟨hformed, hframes, hnesting⟩ := ih
    obtain ⟨hcarry, hlevel⟩ := State.carry_of_step hstep
    obtain ⟨hlater, hnext, hmore⟩ := hformed.carry hcarry hlevel
    refine ⟨hlater, hnext.trans (by rw [hframes]), ?_⟩
    rw [List.length_append, List.length_singleton]
    exact Int.le_trans hmore (by omega)

/-- The lines behind a point that a run has reached are run from there. -/
theorem Reaches.run_append (h : Reaches start done state frames) (rest : List String) :
    start.run (done ++ rest) = state.run rest := by
  induction h generalizing rest with
  | start => rfl
  | next _ hstep ih =>
    rw [List.append_assoc, List.singleton_append, ih, run_of_next hstep]

end SqlNotebook.Macro
