/-
SqlNotebook/Proofs/Macro/Bounds.lean

The slots of a run.  There are ten of them, and the level that is read or written has to
be one of these.  `run?` is the run of a macro in which a slot that does not exist ends
everything: it is `none` as soon as one is asked for.  Well formed counters and slots only
ask for slots that exist, and they stay well formed, so

    run? body  =  some (run body)

for every body, also one whose `if` lines do not match or only come about when
placeholders are expanded.
-/
import SqlNotebook.Proofs.Macro.Enclosing

namespace SqlNotebook.Macro

/-! ### Slots that may be missing -/

namespace Branches

/-- The slot of a level, if there is one. -/
def slot? (b : Branches) (level : Int) : Option Bool :=
  if 0 ≤ level then b.slots[level.toNat]? else none

/-- Writes the slot of a level, if there is one. -/
def setSlot? (b : Branches) (level : Int) (runs : Bool) : Option Branches :=
  if 0 ≤ level ∧ level < b.slots.size then some (b.setSlot level runs) else none

/-- Whether lines run, if there is a slot that says so. -/
def active? (b : Branches) : Option Bool :=
  b.slot? b.level

/-- Opens an `if` that has been evaluated, if there is a slot for it. -/
def enter? (b : Branches) (outcome : Bool) : Option Branches :=
  { b with level := b.level + 1, nesting := b.nesting + 1 }.setSlot? (b.level + 1) outcome

/-- Goes over to the other half, if there is a slot for it. -/
def flip? (b : Branches) : Option Branches :=
  if b.nesting = b.level then b.active?.bind fun active => b.setSlot? b.level !active else some b

variable {b : Branches}

theorem slot?_eq_some {level : Int} (hlow : 0 ≤ level) (hhigh : level ≤ maxDepth) :
    b.slot? level = some (b.slot level) := by
  have hlevel : level.toNat < maxDepth + 1 := by omega
  simp [slot?, slot, hlow, hlevel]

theorem setSlot?_eq_some {level : Int} (hlow : 0 ≤ level) (hhigh : level ≤ maxDepth)
    (runs : Bool) : b.setSlot? level runs = some (b.setSlot level runs) := by
  rw [setSlot?, if_pos]
  exact ⟨hlow, by show level < (maxDepth + 1 : Nat); omega⟩

theorem WellFormed.active?_eq_some (h : b.WellFormed) : b.active? = some b.active :=
  slot?_eq_some h.level_nonneg h.level_le

theorem WellFormed.enter?_eq_some (h : b.WellFormed) (hdepth : b.level < maxDepth)
    (outcome : Bool) : b.enter? outcome = some (b.enter outcome) :=
  setSlot?_eq_some (Int.le_add_one h.level_nonneg) (by omega) outcome

theorem WellFormed.flip?_eq_some (h : b.WellFormed) : b.flip? = some b.flip := by
  rw [flip?, Branches.flip]
  split
  · rw [h.active?_eq_some, Option.bind_some, setSlot?_eq_some h.level_nonneg h.level_le]
  · rfl

end Branches

namespace State

/-- Opens an `if`, as long as there are slots for what is read and written. -/
def openIf? (state : State) (condition : Option Condition) : Option (Except Fault State) :=
  state.branches.active?.bind fun active =>
    if !active then some (.ok { state with branches := state.branches.skip })
    else if (maxDepth : Int) ≤ state.branches.level then some (.error .tooDeep)
    else
      match condition with
      | none => some (.error .missingOperands)
      | some condition =>
        let (outcome, reported) := state.decideCondition condition
        (state.branches.enter? outcome).map fun branches => .ok { reported with branches }

/-- Carries out a directive, as long as there are slots for what is read and written.  An
`endif` reads none, and an ordinary line only looks up whether it runs. -/
def perform? (state : State) (line : String) : Directive → Option (Except Fault Step)
  | .openIf condition => (state.openIf? condition).map (·.map .next)
  | .otherwise =>
    state.branches.flip?.map fun branches => .ok (.next { state with branches })
  | .closeIf => some (state.perform line .closeIf)
  | directive => state.branches.active?.map fun _ => state.perform line directive

/-- Runs one line, as long as there are slots for what is read and written. -/
def step? (state : State) (raw : String) : Option (Except Fault Step) :=
  let line := Text.trim raw
  if passesOver line then some (.ok (.next state)) else state.perform? line (state.directive line)

/-- Runs the lines of a macro, as long as there are slots for what is read and written. -/
def run? (state : State) : List String → Option (Except Fault Expansion)
  | [] => some (if state.branches.nesting = 0 then .ok state.finish else .error .unmatched)
  | raw :: rest =>
    match state.step? raw with
    | none => none
    | some (.error fault) => some (.error fault)
    | some (.ok (.next state)) => state.run? rest
    | some (.ok (.return state)) => some (.ok state.finish)
    | some (.ok (.exit state)) => some (.ok state.giveUp)

variable {state : State}

theorem openIf?_eq_some (h : state.branches.WellFormed) (condition : Option Condition) :
    state.openIf? condition = some (state.openIf condition) := by
  simp only [openIf?, h.active?_eq_some, Option.bind_some]
  rcases hactive : state.branches.active with - | -
  · simp [openIf, hactive]
  · by_cases hdeep : (maxDepth : Int) ≤ state.branches.level
    · simp [openIf, hactive, hdeep]
    · rcases condition with - | condition
      · simp [openIf, hactive, hdeep]
      · have hdepth : state.branches.level < maxDepth := by omega
        simp [openIf, hactive, hdeep, h.enter?_eq_some hdepth]

theorem perform?_eq_some (h : state.branches.WellFormed) (line : String) (directive : Directive) :
    state.perform? line directive = some (state.perform line directive) := by
  cases directive with
  | openIf condition =>
    rw [perform?, openIf?_eq_some h, Option.map_some]
    rfl
  | otherwise =>
    rw [perform?, h.flip?_eq_some, Option.map_some]
    rfl
  | closeIf => rfl
  | _ =>
    rw [perform?, h.active?_eq_some, Option.map_some]
    all_goals nofun

theorem step?_eq_some (h : state.branches.WellFormed) (raw : String) :
    state.step? raw = some (state.step raw) := by
  simp only [step?, step]
  split
  · rfl
  · exact perform?_eq_some h _ _

/-- **A run never asks for a slot that does not exist.** -/
theorem run?_eq_some (h : state.branches.WellFormed) (lines : List String) :
    state.run? lines = some (state.run lines) := by
  induction lines generalizing state with
  | nil => rfl
  | cons raw rest ih =>
    rw [run?, run, step?_eq_some h]
    rcases hstep : state.step raw with fault | ⟨later | later | later⟩
    · rfl
    · -- the line behind it is run from well formed counters and slots again
      obtain ⟨hcarry, hlevel⟩ := carry_of_step hstep
      exact ih (h.carry hcarry hlevel).1
    · rfl
    · rfl

end State

end SqlNotebook.Macro

namespace SqlNotebook.MacroTable

open Macro

/-- **The levels of a run**, for every macro and every call of it.  No slot is asked for that
does not exist.  In front of every line and behind it, unless it fails, the counters and
slots are well formed, and they stand for what the line stands inside of; so a line runs
exactly if every evaluated frame around it does.  The greater counter is at most the number
of the lines so far. -/
theorem levels_of_run (table : MacroTable) {instruction name : String} {body : List String}
    (hcalled : table.called? instruction = some ⟨name, body⟩) :
    let start : State := { scope := (Call.ofInstruction instruction).scope }
    table.expand instruction =
        (start.run body).mapError (fun fault => .structural fault.message instruction) ∧
      start.run? body = some (start.run body) ∧
      ∀ done raw rest state frames, body = done ++ raw :: rest → Reaches start done state frames →
        state.branches.WellFormed ∧ state.branches.frames = frames ∧
          state.branches.active = frames.run ∧ state.branches.nesting ≤ done.length ∧
          ∀ step, state.step raw = .ok step →
            step.state.branches.WellFormed ∧
              step.state.branches.frames = frames.next (state.move raw) := by
  intro start
  refine ⟨by rw [expand, hcalled], State.run?_eq_some Branches.wellFormed_start body, ?_⟩
  rintro done raw rest state frames - hreaches
  obtain ⟨hformed, hframes, hnesting⟩ := hreaches.shows rfl
  refine ⟨hformed, hframes, ?_, hnesting, fun step hstep => ?_⟩
  · rw [← hframes, Branches.run_frames]
  · obtain ⟨hcarry, hlevel⟩ := State.carry_of_step hstep
    obtain ⟨hlater, hnext, -⟩ := hformed.carry hcarry hlevel
    exact ⟨hlater, hnext.trans (by rw [hframes])⟩

/-- A body whose keywords come from the call, with an `else` outside of every `if`. -/
def keywordBody : List String :=
  ["{1} a == b", "if", "{2}", "endif", "else", "{3}"]

/-- The table with the macro `T` for this body. -/
def keywordTable : MacroTable :=
  MacroTable.add Dictionary.empty ⟨"T", keywordBody⟩

/-- What a call of it starts with. -/
def keywordStart : State := { scope := (Call.ofInstruction "t if else endif").scope }

/-- The third line stands in an `if` that has been skipped, inside of one that does not run. -/
theorem levels_of_run_keywords :
    keywordTable.called? "t if else endif" = some ⟨"T", keywordBody⟩ ∧
      ∃ state,
        Reaches keywordStart ["{1} a == b", "if"] state
            [.skipped, .evaluated false, .evaluated true] ∧
          state.branches.WellFormed ∧ state.branches.active = false := by
  have hcalled : keywordTable.called? "t if else endif" = some ⟨"T", keywordBody⟩ := rfl
  have hopen : keywordStart.step "{1} a == b" =
    .ok (.next { keywordStart with branches := Branches.start.enter false }) := rfl
  have hskip : State.step { keywordStart with branches := Branches.start.enter false } "if" =
    .ok (.next { keywordStart with branches := (Branches.start.enter false).skip }) := rfl
  have hreaches := (Reaches.start.next hopen).next hskip
  obtain ⟨-, -, hlevels⟩ := levels_of_run keywordTable hcalled
  obtain ⟨hformed, -, hactive, -⟩ := hlevels _ _ _ _ _ rfl hreaches
  exact ⟨hcalled, _, hreaches, hformed, hactive⟩

end SqlNotebook.MacroTable
