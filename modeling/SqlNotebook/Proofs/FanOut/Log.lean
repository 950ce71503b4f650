/-
SqlNotebook/Proofs/FanOut/Log.lean

Which job of a fan-out makes which call.  The log of a run lists the calls in order,
each with the number of the job that makes it:

    log  =  [(1, connect …), (0, connect …), (1, prepare …), …]

Without the numbers it is the list of the calls of the run (`calls_eq_log`).  What it
holds of one job follows the turns of this job alone, since the turns of the others
leave the job where it is.  So what the calls of a job have in common, from a given
stage on, is shown turn by turn, as if the job were by itself (`callsOf_induction`).
-/
import SqlNotebook.Proofs.FanOut.Turns

namespace SqlNotebook.FanOut.Fleet

variable (database : Database) (source : Source) (places : Nat)

/-- The calls that the jobs make, in order, each with the number of its job. -/
def log : Fleet → List Nat → List (Nat × Call)
  | _, [] => []
  | fleet, i :: order =>
    (fleet.jobs[i]?.bind (fleet.call? source)).toList.map (i, ·) ++
      log (fleet.turn database source places i) order

/-- The calls of one job, in order. -/
def callsOf (i : Nat) (fleet : Fleet) (order : List Nat) : List Call :=
  ((fleet.log database source places order).filter (·.1 = i)).map (·.2)

variable {database source places} {fleet : Fleet} {job : Job} {i j : Nat}

/-! ### The log of a run -/

theorem map_snd_log (order : List Nat) :
    (fleet.log database source places order).map (·.2) =
      along database source places (call? source) fleet order := by
  induction order generalizing fleet with
  | nil => rfl
  | cons i order ih =>
    rw [log, along, List.map_append, ih]
    rcases fleet.jobs[i]?.bind (fleet.call? source) <;> rfl

/-- The calls of a run are those in its log. -/
theorem calls_eq_log (order : List Nat) :
    fleet.calls database source places order =
      ((fleet.log database source places order).map (·.2)).reverse := by
  rw [map_snd_log, calls]

/-- A call in the log has been made in the first turn, or behind it. -/
theorem mem_log_cons {order : List Nat} {call : Call} :
    (j, call) ∈ fleet.log database source places (i :: order) ↔
      (i = j ∧ fleet.jobs[i]?.bind (fleet.call? source) = some call) ∨
        (j, call) ∈ (fleet.turn database source places i).log database source places order := by
  rw [log, List.mem_append, List.mem_map]
  apply or_congr_left
  constructor
  · rintro ⟨made, hmade, heq⟩
    obtain ⟨rfl, rfl⟩ := Prod.mk.inj heq
    exact ⟨rfl, Option.mem_toList.mp hmade⟩
  · rintro ⟨rfl, hmade⟩
    exact ⟨call, Option.mem_toList.mpr hmade, rfl⟩

theorem mem_callsOf {order : List Nat} {call : Call} :
    call ∈ fleet.callsOf database source places i order ↔
      (i, call) ∈ fleet.log database source places order := by
  simp [callsOf]

/-! ### One job -/

/-- The turn of a job comes first among its calls. -/
theorem callsOf_cons_self (h : fleet.jobs[i]? = some job) (order : List Nat) :
    fleet.callsOf database source places i (i :: order) =
      (fleet.call? source job).toList ++
        (fleet.turn database source places i).callsOf database source places i order := by
  rw [callsOf, log, List.filter_append, List.map_append, h, Option.bind_some]
  rcases fleet.call? source job with - | call
  · rfl
  · simp [callsOf]

/-- The turns of other jobs bring none. -/
theorem callsOf_cons_of_ne (hij : j ≠ i) (order : List Nat) :
    fleet.callsOf database source places i (j :: order) =
      (fleet.turn database source places j).callsOf database source places i order := by
  rw [callsOf, log, List.filter_append, List.map_append]
  rcases fleet.jobs[j]?.bind (fleet.call? source) with - | call
  · rfl
  · simp [callsOf, hij]

/-- There are no calls of a job that there is not. -/
theorem callsOf_of_none (h : fleet.jobs[i]? = none) (order : List Nat) :
    fleet.callsOf database source places i order = [] := by
  induction order generalizing fleet with
  | nil => rfl
  | cons j order ih =>
    by_cases hij : j = i
    · subst hij
      rw [callsOf, log, h, turn_of_none h]
      exact ih h
    · rw [callsOf_cons_of_ne hij]
      apply ih
      rw [getElem?_turn_of_ne hij]
      exact h

/-- **The calls of one job**, from its stage on: what holds of none, and is kept when a
turn of the job puts its call in front, holds of all calls of the job.  Meanwhile the
fleet has what every turn preserves. -/
theorem callsOf_induction (Keeps : Fleet → Prop) (Leads : Stage → List Call → Prop)
    (keep : ∀ fleet i, Keeps fleet → Keeps (fleet.turn database source places i))
    (none : ∀ stage, Leads stage [])
    (step : ∀ (fleet : Fleet) (job : Job) (calls : List Call), Keeps fleet →
      Leads (fleet.moved database source places job).stage calls →
      Leads job.stage ((fleet.call? source job).toList ++ calls))
    (order : List Nat) (hkeeps : Keeps fleet) (hjob : fleet.jobs[i]? = some job) :
    Leads job.stage (fleet.callsOf database source places i order) := by
  -- a turn of the job puts its call in front, one of another job only moves the fleet on
  induction order generalizing fleet job with
  | nil => exact none job.stage
  | cons j order ih =>
    have hlater := keep fleet j hkeeps
    by_cases hij : j = i
    · subst hij
      rw [callsOf_cons_self hjob]
      apply step fleet job _ hkeeps
      exact ih hlater (getElem?_turn hjob)
    · rw [callsOf_cons_of_ne hij]
      apply ih hlater
      rw [getElem?_turn_of_ne hij]
      exact hjob

end SqlNotebook.FanOut.Fleet
