/-
SqlNotebook/Proofs/Macro/Otherwise.lean

An `else` that stands in no evaluated `if`.  There are two places for it.  Inside of a
skipped `if` it does nothing, so that the macro is the same one without the line.  Outside
of every `if` the body itself is the innermost frame, and the line goes over to the other
half of the body:

    done, else, rest  =  done, then passed over up to the next `else`       lines ran
    done, else, rest  =  done, then carried out                             they did not

A part of the body that is passed over only has its `if` and `endif` lines counted
(`behindElse`), so the run of it is the run of the lines behind the next `else` outside of
every `if` (`run_inBody_false`).
-/
import SqlNotebook.Proofs.Macro.Balance

namespace SqlNotebook.Macro

/-! ### The other half of a body -/

/-- The lines behind the next `else` outside of every `if`, where `depth` of these are open, and
none if there is no such `else`. -/
def behindElse : (depth : Nat) → List String → Except Fault (List String)
  | depth, [] => if depth = 0 then .ok [] else .error .unmatched
  | depth, raw :: rest =>
    match LineKind.ofLine raw, depth with
    | .ordinary, depth => behindElse depth rest
    | .openIf, depth => behindElse (depth + 1) rest
    | .otherwise, 0 => .ok rest
    | .otherwise, depth + 1 => behindElse (depth + 1) rest
    | .closeIf, 0 => .error .unmatched
    | .closeIf, depth + 1 => behindElse depth rest

/-- What a line does, by its kind. -/
theorem behindElse_cons (depth : Nat) (raw : String) (rest : List String) :
    behindElse depth (raw :: rest) =
      match LineKind.ofLine raw, depth with
      | .ordinary, depth => behindElse depth rest
      | .openIf, depth => behindElse (depth + 1) rest
      | .otherwise, 0 => .ok rest
      | .otherwise, depth + 1 => behindElse (depth + 1) rest
      | .closeIf, 0 => .error .unmatched
      | .closeIf, depth + 1 => behindElse depth rest := rfl

namespace Branches

/-- Inside of nothing but `depth` skipped `if` lines, in the half of the body that runs or in the
one that does not. -/
def inBody (b : Branches) (runs : Bool) (depth : Nat) : Branches :=
  ⟨b.slots.setIfInBounds 0 runs, 0, depth⟩

variable {b : Branches} {runs : Bool} {depth : Nat}

theorem active_inBody : (b.inBody runs depth).active = runs := by
  have hslot : (b.setSlot 0 runs).slot 0 = runs := slot_setSlot_self (by decide) runs
  exact hslot

theorem skip_inBody : (b.inBody runs depth).skip = b.inBody runs (depth + 1) := rfl

theorem flip_inBody_zero : (b.inBody runs 0).flip = b.inBody (!runs) 0 := by
  rw [flip, if_pos (by rfl), active_inBody]
  simp [setSlot, inBody]

theorem flip_inBody_succ : (b.inBody runs (depth + 1)).flip = b.inBody runs (depth + 1) := by
  have hne : ¬ (b.inBody runs (depth + 1)).nesting = (b.inBody runs (depth + 1)).level := by
    show ¬ ((depth + 1 : Nat) : Int) = 0
    omega
  rw [flip, if_neg hne]

theorem close_inBody_zero : (b.inBody runs 0).close = .error .unmatched := rfl

theorem close_inBody_succ : (b.inBody runs (depth + 1)).close = .ok (b.inBody runs depth) := by
  have hnesting : ((depth + 1 : Nat) : Int) - 1 = depth := by omega
  have hskipped : ¬ (depth : Int) < 0 := by omega
  simp only [close, inBody, hnesting, if_neg hskipped]

/-- The body is the only frame where no `if` is open. -/
theorem WellFormed.nesting_eq_zero (h : b.WellFormed) (hbody : b.frames.tail = []) :
    b.nesting = 0 := by
  have hnonneg := h.level_nonneg
  have hle := h.level_le_nesting
  have hlength := congrArg List.length hbody
  simp only [frames, List.length_tail, List.length_append, List.length_replicate,
    List.length_cons, List.length_nil] at hlength
  omega

/-- Outside of every `if` there is nothing but the body. -/
theorem WellFormed.eq_inBody (h : b.WellFormed) (hnesting : b.nesting = 0) :
    b = b.inBody b.active 0 := by
  obtain ⟨slots, level, nesting⟩ := b
  have hnonneg : 0 ≤ level := h.level_nonneg
  have hle : level ≤ nesting := h.level_le_nesting
  obtain rfl : nesting = 0 := hnesting
  obtain rfl : level = 0 := by omega
  have hslot : slots.setIfInBounds 0 (slots[0]?.getD false) = slots := by
    ext i hi
    rw [Vector.getElem_setIfInBounds]
    split
    · next hzero =>
      subst hzero
      simp
    · rfl
  show Branches.mk slots 0 0 = Branches.mk (slots.setIfInBounds 0 (slots[0]?.getD false)) 0 0
  rw [hslot]

end Branches

variable {g : Gathered} {branches : Branches} {raw : String} {rest : List String}

/-- **A half of the body that does not run** is passed over up to the next `else` outside of every
`if`, and behind it lines run again. -/
theorem run_inBody_false {lines : List String} (hfixed : ∀ raw ∈ lines, FixedLine raw)
    (depth : Nat) :
    (g.state (branches.inBody false depth)).run lines =
      (behindElse depth lines).bind (g.state (branches.inBody true 0)).run := by
  induction lines generalizing depth with
  | nil => cases depth <;> rfl
  | cons raw rest ih =>
    have hraw := hfixed raw List.mem_cons_self
    have ih := ih fun other hother => hfixed other (List.mem_cons_of_mem _ hother)
    have hoff : (branches.inBody false depth).active = false := Branches.active_inBody
    rw [behindElse_cons]
    cases hkind : LineKind.ofLine raw with
    | ordinary =>
      rw [run_of_next (step_ordinary_of_inactive ⟨raw, hkind, hraw⟩ hoff), ih]
    | openIf =>
      rw [run_of_next (step_openIf_of_inactive ⟨raw, hkind, hraw⟩ hoff), Branches.skip_inBody, ih]
    | otherwise =>
      rw [run_of_next (step_otherwise ⟨raw, hkind, hraw⟩)]
      cases depth with
      | zero =>
        rw [Branches.flip_inBody_zero]
        rfl
      | succ depth =>
        rw [Branches.flip_inBody_succ, ih]
    | closeIf =>
      have hstep : (g.state (branches.inBody false depth)).step raw = _ :=
        step_closeIf ⟨raw, hkind, hraw⟩
      cases depth with
      | zero =>
        rw [Branches.close_inBody_zero] at hstep
        rw [State.run, hstep]
        rfl
      | succ depth =>
        rw [run_closeIf ⟨raw, hkind, hraw⟩ Branches.close_inBody_succ, ih]

/-! ### Bodies with and without the line -/

namespace State

/-- The state with the lines of the body running, outside of every `if`. -/
def on (state : State) : State :=
  { state with branches := state.branches.inBody true 0 }

/-- What comes of lines if they are carried out from here, or if they are passed over up to the
next `else` outside of every `if`. -/
def runHalf (state : State) (lines : List String) : (runs : Bool) → Except Fault Expansion
  | true => state.on.run lines
  | false => (behindElse 0 lines).bind state.on.run

end State

variable {state : State}

theorem run_inBody (hfixed : ∀ other ∈ rest, FixedLine other) (runs : Bool) :
    { state with branches := state.branches.inBody runs 0 }.run rest = state.runHalf rest runs := by
  cases runs with
  | false => exact run_inBody_false (g := state.gathered) hfixed 0
  | true => rfl

/-- Outside of every `if` the lines are those of a half of the body. -/
theorem run_eq_runHalf (h : state.branches.WellFormed) (hnesting : state.branches.nesting = 0)
    (hfixed : ∀ other ∈ rest, FixedLine other) :
    state.run rest = state.runHalf rest state.branches.active := by
  rw [← run_inBody hfixed, ← h.eq_inBody hnesting]

theorem run_otherwise (hfixed : FixedLine raw) (helse : LineKind.ofLine raw = .otherwise) :
    state.run (raw :: rest) = { state with branches := state.branches.flip }.run rest :=
  run_of_next (step_otherwise (g := state.gathered) ⟨raw, helse, hfixed⟩)

/-- Inside of a skipped `if` an `else` does nothing. -/
theorem run_otherwise_of_skipped (hskipped : state.branches.frames.head? = some .skipped)
    (hfixed : FixedLine raw) (helse : LineKind.ofLine raw = .otherwise) :
    state.run (raw :: rest) = state.run rest := by
  have hne : state.branches.nesting ≠ state.branches.level := by
    intro heq
    rw [Branches.frames_of_nesting_eq heq] at hskipped
    cases hskipped
  rw [run_otherwise hfixed helse, Branches.flip, if_neg hne]

/-- Outside of every `if` it goes over to the other half of the body. -/
theorem run_otherwise_of_body (h : state.branches.WellFormed)
    (hnesting : state.branches.nesting = 0) (hfixed : ∀ other ∈ raw :: rest, FixedLine other)
    (helse : LineKind.ofLine raw = .otherwise) :
    state.run (raw :: rest) = state.runHalf rest !state.branches.active := by
  have hflip : state.branches.flip = state.branches.inBody (!state.branches.active) 0 :=
    (congrArg Branches.flip (h.eq_inBody hnesting)).trans Branches.flip_inBody_zero
  rw [run_otherwise (hfixed raw List.mem_cons_self) helse, hflip]
  exact run_inBody (fun other hother => hfixed other (List.mem_cons_of_mem _ hother)) _

end SqlNotebook.Macro

namespace SqlNotebook.MacroTable

open Macro

/-- **An `else` in no evaluated `if`**, for every body that has one and every call of the macro:
the body with the line, in one table, next to the body without it, in another one.  Inside of a
skipped `if` the line changes nothing.  Outside of every `if` it exchanges the halves: the lines
behind it are passed over, up to the next `else` outside of every `if`, where they would have been
carried out without it, and carried out where they would have been passed over. -/
theorem expand_without_else (table without : MacroTable) {instruction name raw : String}
    {done rest : List String} {state : State} {frames : Frames}
    (hcalled : table.called? instruction = some ⟨name, done ++ raw :: rest⟩)
    (hwithout : without.called? instruction = some ⟨name, done ++ rest⟩)
    (hfixed : ∀ other ∈ done ++ raw :: rest, FixedLine other)
    (helse : LineKind.ofLine raw = .otherwise)
    (hreaches : Reaches { scope := (Call.ofInstruction instruction).scope } done state frames) :
    (frames.head? = some .skipped → table.expand instruction = without.expand instruction) ∧
      (frames.tail = [] →
        let half := fun runs => (state.runHalf rest runs).mapError
          fun fault => Error.structural fault.message instruction
        table.expand instruction = half (!state.branches.active) ∧
          without.expand instruction = half state.branches.active) := by
  obtain ⟨hformed, hframes, -⟩ := hreaches.shows rfl
  have hbehind other (hother : other ∈ raw :: rest) : FixedLine other :=
    hfixed other (List.mem_append_right done hother)
  simp only [expand, hcalled, hwithout, hreaches.run_append]
  refine ⟨fun hskipped => ?_, fun hbody => ?_⟩
  · rw [← hframes] at hskipped
    rw [run_otherwise_of_skipped hskipped (hbehind raw List.mem_cons_self) helse]
  · have hnesting : state.branches.nesting = 0 := by
      rw [← hframes] at hbody
      exact hformed.nesting_eq_zero hbody
    rw [run_otherwise_of_body hformed hnesting hbehind helse, run_eq_runHalf hformed hnesting
      fun other hother => hbehind other (List.mem_cons_of_mem _ hother)]
    exact ⟨rfl, rfl⟩

/-- The table with the macro `T` for a body. -/
def bodyTable (body : List String) : MacroTable :=
  MacroTable.add Dictionary.empty ⟨"T", body⟩

/-- An `else` inside of a skipped `if`, and one outside of every `if`. -/
def otherwiseBody : List String :=
  ["if {1} == a", "if", "else", "endif", "endif", "else", "SELECT 1"]

/-- A call of the macro that has gathered nothing yet. -/
def otherwiseState (branches : Branches) : State :=
  { scope := (Call.ofInstruction "t b").scope, branches }

/-- Without the first `else` the macro expands to nothing all the same, and without the second
one its last line is carried out. -/
theorem expand_without_else_twice :
    (bodyTable otherwiseBody).called? "t b" = some ⟨"T", otherwiseBody⟩ ∧
      (bodyTable otherwiseBody).expand "t b" =
        (bodyTable (otherwiseBody.eraseIdx 2)).expand "t b" ∧
      (bodyTable otherwiseBody).expand "t b" = .ok { text := "", expanded := true } ∧
      (bodyTable (otherwiseBody.eraseIdx 5)).expand "t b" =
        .ok { text := "SELECT 1", expanded := true } := by
  let outer := Branches.start.enter false
  have hopen : (otherwiseState .start).step "if {1} == a" = .ok (.next (otherwiseState outer)) := rfl
  have hskip : (otherwiseState outer).step "if" = .ok (.next (otherwiseState outer.skip)) := rfl
  have hinside : (otherwiseState outer.skip).step "else" =
    .ok (.next (otherwiseState outer.skip)) := rfl
  have hinner : (otherwiseState outer.skip).step "endif" = .ok (.next (otherwiseState outer)) := rfl
  have houter : (otherwiseState outer).step "endif" =
    .ok (.next (otherwiseState (Branches.start.setSlot 1 false))) := rfl
  have hfirst := (Reaches.start.next hopen).next hskip
  have hsecond := ((hfirst.next hinside).next hinner).next houter
  have hcalled : (bodyTable otherwiseBody).called? "t b" = some ⟨"T", otherwiseBody⟩ := rfl
  have hfixed : ∀ raw ∈ otherwiseBody, FixedLine raw := by decide
  have helse : LineKind.ofLine "else" = .otherwise := rfl
  obtain ⟨hskipped, -⟩ := expand_without_else (bodyTable otherwiseBody)
    (bodyTable (otherwiseBody.eraseIdx 2)) hcalled rfl hfixed helse hfirst
  obtain ⟨-, hbody⟩ := expand_without_else (bodyTable otherwiseBody)
    (bodyTable (otherwiseBody.eraseIdx 5)) hcalled rfl hfixed helse hsecond
  obtain ⟨hwith, hwithout⟩ := hbody rfl
  exact ⟨hcalled, hskipped rfl, hwith.trans rfl, hwithout.trans rfl⟩

/-- In front of the first line of a body no `if` is open at all, and still the line changes what
the macro expands to. -/
theorem expand_else_changes :
    (bodyTable ["else", "SELECT 1"]).called? "t" = some ⟨"T", ["else", "SELECT 1"]⟩ ∧
      (bodyTable ["SELECT 1"]).called? "t" = some ⟨"T", ["SELECT 1"]⟩ ∧
      (∀ raw ∈ ["else", "SELECT 1"], FixedLine raw) ∧ LineKind.ofLine "else" = .otherwise ∧
      (∃ state, Reaches { scope := (Call.ofInstruction "t").scope } [] state .start) ∧
      (bodyTable ["else", "SELECT 1"]).expand "t" = .ok { text := "", expanded := true } ∧
      (bodyTable ["SELECT 1"]).expand "t" = .ok { text := "SELECT 1", expanded := true } :=
  ⟨rfl, rfl, by decide, rfl, ⟨_, .start⟩, rfl, rfl⟩

end SqlNotebook.MacroTable
