/-
SqlNotebook/Macro/Branches.lean

The `if` lines that are open while a macro runs.  Two counters say how many there
are: `level` counts the evaluated ones, `nesting` counts all of them.  An `if`
that is met where lines do not run is not evaluated; it only goes into `nesting`,
so that its `endif` is recognised.

There is a slot for every level, which says whether the lines of the half at hand
run.  A slot is written when its level is entered, and left as it is when the
level is left.
-/
import SqlNotebook.Macro.Basic

namespace SqlNotebook.Macro

/-- The open `if` lines. -/
structure Branches where
  /-- For every level, whether lines run. -/
  slots : Vector Bool (maxDepth + 1)
  /-- The number of evaluated `if` lines that are open. -/
  level : Int
  /-- The number of `if` lines that are open. -/
  nesting : Int
deriving DecidableEq, Repr

namespace Branches

/-- No `if` is open, and lines run. -/
def start : Branches :=
  ⟨(Vector.replicate (maxDepth + 1) false).setIfInBounds 0 true, 0, 0⟩

/-- The slot of a level. -/
def slot (b : Branches) (level : Int) : Bool :=
  b.slots[level.toNat]?.getD false

/-- Writes the slot of a level. -/
def setSlot (b : Branches) (level : Int) (runs : Bool) : Branches :=
  { b with slots := b.slots.setIfInBounds level.toNat runs }

/-- Whether the lines at this point run. -/
def active (b : Branches) : Bool :=
  b.slot b.level

/-- Opens an `if` that is not evaluated. -/
def skip (b : Branches) : Branches :=
  { b with nesting := b.nesting + 1 }

/-- Opens an `if` that has been evaluated. -/
def enter (b : Branches) (outcome : Bool) : Branches :=
  { b with level := b.level + 1, nesting := b.nesting + 1 }.setSlot (b.level + 1) outcome

/-- Goes over to the other half.  Inside an `if` that has not been evaluated
there is nothing to go over to. -/
def flip (b : Branches) : Branches :=
  if b.nesting = b.level then b.setSlot b.level !b.active else b

/-- Ends the innermost `if`. -/
def close (b : Branches) : Except Fault Branches :=
  if b.nesting - 1 < b.level then
    if b.level - 1 < 0 then .error .unmatched
    else .ok { b with level := b.level - 1, nesting := b.nesting - 1 }
  else .ok { b with nesting := b.nesting - 1 }

/-! ### Slots -/

variable {b : Branches}

theorem slot_setSlot_self {level : Int} (h : level ≤ maxDepth) (runs : Bool) :
    (b.setSlot level runs).slot level = runs := by
  have hlevel : level.toNat < maxDepth + 1 := by omega
  simp [slot, setSlot, hlevel]

theorem slot_setSlot_of_lt {level other : Int} (h : other < level) (hlevel : 0 < level)
    (runs : Bool) : (b.setSlot level runs).slot other = b.slot other := by
  have hne : level.toNat ≠ other.toNat := by omega
  simp [slot, setSlot, hne]

/-! ### Skipped `if` lines -/

theorem active_skip : b.skip.active = b.active := rfl

theorem flip_skip (h : b.level ≤ b.nesting) : b.skip.flip = b.skip := by
  rw [flip, if_neg]
  show ¬ b.nesting + 1 = b.level
  omega

theorem close_skip (h : b.level ≤ b.nesting) : b.skip.close = .ok b := by
  have hopen : ¬ b.nesting < b.level := by omega
  simp only [close, skip, Int.add_sub_cancel, if_neg hopen]

/-! ### Slots that are left over -/

/-- Two states of the counters and slots that differ at most in the slots above
the level.  These are not read before they are written again. -/
structure Agrees (b other : Branches) : Prop where
  level : b.level = other.level
  nesting : b.nesting = other.nesting
  slots : ∀ level ≤ other.level, b.slot level = other.slot level

variable {other later : Branches}

theorem Agrees.refl (b : Branches) : b.Agrees b :=
  ⟨rfl, rfl, fun _ _ => rfl⟩

theorem Agrees.trans (h : b.Agrees other) (h' : other.Agrees later) : b.Agrees later where
  level := h.level.trans h'.level
  nesting := h.nesting.trans h'.nesting
  slots level hlevel := by
    rw [h.slots level (by rw [h'.level]; exact hlevel)]
    exact h'.slots level hlevel

theorem Agrees.active (h : b.Agrees other) : b.active = other.active := by
  rw [Branches.active, h.level]
  exact h.slots other.level (Int.le_refl _)

/-! ### Evaluated `if` lines -/

/-- The half of an `if` that has just been evaluated runs if its condition holds. -/
theorem active_enter (hdepth : b.level < maxDepth) (outcome : Bool) :
    (b.enter outcome).active = outcome :=
  slot_setSlot_self (by show b.level + 1 ≤ maxDepth; omega) outcome

/-- Lines run, inside of `depth` evaluated `if` lines and no skipped ones. -/
structure RunsAt (b : Branches) (depth : Nat) : Prop where
  active : b.active = true
  level : b.level = depth
  nesting : b.nesting = depth

variable {depth : Nat} {outcome : Bool}

theorem RunsAt.of_agrees (hother : other.RunsAt depth) (h : b.Agrees other) : b.RunsAt depth :=
  ⟨h.active.trans hother.active, h.level.trans hother.level, h.nesting.trans hother.nesting⟩

theorem RunsAt.enter (hb : b.RunsAt depth) (hdepth : depth < maxDepth) :
    (b.enter true).RunsAt (depth + 1) where
  active := active_enter (by have := hb.level; omega) true
  level := by show b.level + 1 = _; have := hb.level; omega
  nesting := by show b.nesting + 1 = _; have := hb.nesting; omega

/-- An `else` goes over to the other half. -/
theorem Agrees.flip (hother : other.RunsAt depth) (hdepth : depth < maxDepth)
    (h : b.Agrees (other.enter outcome)) : b.flip.Agrees (other.enter !outcome) := by
  have holevel := hother.level
  have honesting := hother.nesting
  have hblevel : b.level = other.level + 1 := h.level
  have hbnesting : b.nesting = other.nesting + 1 := h.nesting
  have hactive : b.active = outcome := h.active.trans (active_enter (by omega) outcome)
  rw [Branches.flip, if_pos (by omega), hactive]
  -- below the level nothing has been written; at the level it is what has just been
  refine ⟨hblevel, hbnesting, fun level hle => ?_⟩
  have hle : level ≤ other.level + 1 := hle
  rcases Int.lt_or_eq_of_le hle with hlt | rfl
  · rw [slot_setSlot_of_lt (by omega) (by omega), h.slots level hle]
    show (setSlot _ _ _).slot level = (setSlot _ _ _).slot level
    rw [slot_setSlot_of_lt hlt (by omega), slot_setSlot_of_lt hlt (by omega)]
  · rw [hblevel, slot_setSlot_self (by omega)]
    exact (active_enter (by omega) _).symm

/-- An `endif` leaves everything as it was in front of the `if`, but for the slot of
its level. -/
theorem Agrees.close (hother : other.RunsAt depth) (h : b.Agrees (other.enter outcome)) :
    ∃ outer, b.close = .ok outer ∧ outer.Agrees other := by
  have holevel := hother.level
  have honesting := hother.nesting
  have hblevel : b.level = other.level + 1 := h.level
  have hbnesting : b.nesting = other.nesting + 1 := h.nesting
  rw [Branches.close, if_pos (by omega), if_neg (by omega)]
  refine ⟨_, rfl, ?_, ?_, fun level hle => ?_⟩
  · show b.level - 1 = other.level
    omega
  · show b.nesting - 1 = other.nesting
    omega
  · show b.slot level = other.slot level
    rw [h.slots level (by show level ≤ other.level + 1; omega)]
    exact slot_setSlot_of_lt (by omega) (by omega) outcome

end Branches

end SqlNotebook.Macro
