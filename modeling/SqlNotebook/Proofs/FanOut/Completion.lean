/-
SqlNotebook/Proofs/FanOut/Completion.lean

Every job comes to its end.  A job that has a place goes on with every turn that
it takes; its rank counts the turns that are left.  Only a job that waits may
stand still, and only while all places are taken.

The turns of an engine are followed by two rounds in which one job after the
other takes all of its turns.  Behind the first round every job waits or is done,
so that all places are free; behind the second one all are done, whatever the
turns before have been.
-/
import SqlNotebook.FanOut.Run
import SqlNotebook.Proofs.FanOut.Turns

namespace SqlNotebook.FanOut

namespace Stage

/-- The number of turns that are left to a job that never waits. -/
def rank : Stage → Nat
  | waiting => 13
  | admitted => 12
  | cleared => 11
  | connected _ => 10
  | sending _ => 9
  | issued _ => 8
  | prepared _ _ => 7
  | ready _ _ => 6
  | closing _ _ => 5
  | failed _ => 4
  | recorded => 3
  | leaving _ => 2
  | left _ => 1
  | done => 0

/-- Whether a job at this stage waits, or is done. -/
def isIdle : Stage → Bool
  | waiting => true
  | done => true
  | _ => false

theorem eq_done_of_rank {stage : Stage} (h : stage.rank = 0) : stage = done := by
  cases stage <;> first | rfl | cases h

theorem rank_le (stage : Stage) : stage.rank ≤ Fleet.turnsOfJob := by
  cases stage <;> simp [rank, Fleet.turnsOfJob]

theorem isRunning_of_isIdle {stage : Stage} (h : stage.isIdle) : stage.isRunning = false := by
  cases stage <;> first | rfl | cases h

end Stage

namespace Fleet

variable (database : Database) (source : Source) (places : Nat)
variable {fleet : Fleet} {job : Job} {i : Nat}

/-! ### Single turns -/

/-- A job that does not wait goes on. -/
theorem rank_moved (h : job.stage ≠ .waiting) :
    (fleet.moved database source places job).stage ≠ .waiting ∧
      (fleet.moved database source places job).stage.rank ≤ job.stage.rank - 1 := by
  obtain ⟨stage, hmoved, hmoves⟩ := exists_moved database source places fleet job
  rw [hmoved]
  -- every move but those of a waiting job goes down in rank
  generalize job.stage = earlier at h hmoves
  cases hmoves with
  | wait | enter => exact absurd rfl h
  | _ => exact ⟨nofun, by simp [Stage.rank]⟩

/-- A job that waits gets a place if there is one. -/
theorem stage_moved_of_waiting (h : job.stage = .waiting) (free : fleet.running < places) :
    (fleet.moved database source places job).stage = .admitted := by
  rw [moved, advance, h]
  exact if_pos free

/-- If there is none, its turn changes nothing. -/
theorem turn_of_waiting (hjob : fleet.jobs[i]? = some job) (h : job.stage = .waiting)
    (full : ¬ fleet.running < places) : fleet.turn database source places i = fleet := by
  rcases job with ⟨sql, stage⟩
  obtain rfl : stage = .waiting := h
  obtain ⟨hi, hget⟩ := List.getElem?_eq_some_iff.mp hjob
  rw [turn, hjob]
  simp only [advance, if_neg full]
  rw [← hget, List.set_getElem_self hi]

/-! ### All turns of one job -/

theorem turns_replicate_succ (k : Nat) :
    fleet.turns database source places (List.replicate (k + 1) i) =
      (fleet.turn database source places i).turns database source places (List.replicate k i) :=
  rfl

theorem getElem?_turns_of_notMem {order : List Nat} (h : i ∉ order) :
    (fleet.turns database source places order).jobs[i]? = fleet.jobs[i]? := by
  induction order generalizing fleet with
  | nil => rfl
  | cons j order ih =>
    rw [List.mem_cons, not_or] at h
    rw [turns_cons, ih h.2, getElem?_turn_of_ne (Ne.symm h.1)]

/-- With as many turns as are left to it, a job that does not wait is done. -/
theorem done_of_turns (k : Nat) (hjob : fleet.jobs[i]? = some job) (h : job.stage ≠ .waiting)
    (hrank : job.stage.rank ≤ k) :
    ∃ later, (fleet.turns database source places (List.replicate k i)).jobs[i]? = some later ∧
      later.stage = .done := by
  induction k generalizing fleet job with
  | zero => exact ⟨job, hjob, Stage.eq_done_of_rank (Nat.le_zero.mp hrank)⟩
  | succ k ih =>
    obtain ⟨hstage, hlater⟩ := rank_moved database source places h
    rw [turns_replicate_succ]
    exact ih (getElem?_turn hjob) hstage (by omega)

/-- With all of its turns, a job that finds a place is done. -/
theorem done_of_all_turns (hjob : fleet.jobs[i]? = some job)
    (h : job.stage = .waiting → fleet.running < places) :
    ∃ later, (fleet.turns database source places (List.replicate turnsOfJob i)).jobs[i]? =
        some later ∧ later.stage = .done := by
  by_cases hstage : job.stage = .waiting
  · -- the first turn takes the place, twelve are left
    have hmoved : (fleet.moved database source places job).stage = .admitted :=
      stage_moved_of_waiting database source places hstage (h hstage)
    rw [turnsOfJob, turns_replicate_succ]
    refine done_of_turns database source places 12 (getElem?_turn hjob) ?_ ?_
    · rw [hmoved]
      exact nofun
    · rw [hmoved]
      exact Nat.le_refl 12
  · exact done_of_turns database source places turnsOfJob hjob hstage job.stage.rank_le

/-- With all of its turns, a job is done, or it still waits. -/
theorem idle_of_all_turns (hjob : fleet.jobs[i]? = some job) :
    ∃ later, (fleet.turns database source places (List.replicate turnsOfJob i)).jobs[i]? =
        some later ∧ later.stage.isIdle := by
  by_cases hwaits : job.stage = .waiting ∧ ¬ fleet.running < places
  · -- nobody else moves meanwhile, so that no place gets free
    obtain ⟨hstage, full⟩ := hwaits
    have stays (k : Nat) :
        fleet.turns database source places (List.replicate k i) = fleet := by
      induction k with
      | zero => rfl
      | succ k ih =>
        rw [turns_replicate_succ, turn_of_waiting database source places hjob hstage full, ih]
    exact ⟨job, by rw [stays, hjob], by rw [hstage]; rfl⟩
  · have hfree : job.stage = .waiting → fleet.running < places := by
      intro hstage
      exact Decidable.byContradiction fun full => hwaits ⟨hstage, full⟩
    obtain ⟨later, hlater, hdone⟩ := done_of_all_turns database source places hjob hfree
    exact ⟨later, hlater, by rw [hdone]; rfl⟩

/-! ### Rounds -/

theorem inOrder_succ (n : Nat) :
    inOrder (n + 1) = inOrder n ++ List.replicate turnsOfJob n := by
  rw [inOrder, inOrder, List.range_succ, List.flatMap_append]
  simp

theorem length_turns (fleet : Fleet) (order : List Nat) :
    (fleet.turns database source places order).jobs.length = fleet.jobs.length := by
  rw [← List.length_map (·.sql), map_sql_turns, List.length_map]

/-- Behind a round every job that has taken part waits, or is done. -/
theorem idle_of_round (n : Nat) (hn : n ≤ fleet.jobs.length) (hi : i < n)
    (hjob : (fleet.turns database source places (inOrder n)).jobs[i]? = some job) :
    job.stage.isIdle := by
  induction n generalizing job with
  | zero => omega
  | succ n ih =>
    rw [inOrder_succ, turns_append] at hjob
    by_cases hin : i = n
    · subst hin
      have hlength : i < (fleet.turns database source places (inOrder i)).jobs.length := by
        rw [length_turns]
        omega
      obtain ⟨later, hlater, hidle⟩ := idle_of_all_turns database source places
        (List.getElem?_eq_getElem hlength)
      rw [hjob] at hlater
      exact Option.some.inj hlater ▸ hidle
    · have hother : i ∉ List.replicate turnsOfJob n := by simp [hin]
      rw [getElem?_turns_of_notMem _ _ _ hother] at hjob
      exact ih (by omega) (by omega) hjob

/-- If no job is under way, all places are free. -/
theorem running_of_idle (h : ∀ job ∈ fleet.jobs, job.stage.isIdle) : fleet.running = 0 :=
  List.countP_eq_zero.mpr fun job hjob => by
    rw [Stage.isRunning_of_isIdle (h job hjob)]
    exact Bool.false_ne_true

/-- Behind a round that finds no job under way, every job that has taken part is
done. -/
theorem done_of_round (hidle : ∀ job ∈ fleet.jobs, job.stage.isIdle) (hplaces : 0 < places)
    (n : Nat) (hn : n ≤ fleet.jobs.length) (i : Nat) (job : Job)
    (hjob : (fleet.turns database source places (inOrder n)).jobs[i]? = some job) :
    job.stage.isIdle ∧ (i < n → job.stage = .done) := by
  induction n generalizing i job with
  | zero => exact ⟨hidle job (List.mem_of_getElem? hjob), nofun⟩
  | succ n ih =>
    have ih := ih (by omega)
    rw [inOrder_succ, turns_append] at hjob
    by_cases hin : i = n
    · -- the job whose turns these are finds all places free
      subst hin
      have hlength : i < (fleet.turns database source places (inOrder i)).jobs.length := by
        rw [length_turns]
        omega
      have hfree : (fleet.turns database source places (inOrder i)).running = 0 :=
        running_of_idle fun other hother => by
          obtain ⟨j, hj⟩ := List.mem_iff_getElem?.mp hother
          exact (ih j other hj).1
      obtain ⟨later, hlater, hdone⟩ := done_of_all_turns database source places
        (List.getElem?_eq_getElem hlength) fun _ => by rwa [hfree]
      rw [hjob] at hlater
      obtain rfl := Option.some.inj hlater
      exact ⟨by rw [hdone]; rfl, fun _ => hdone⟩
    · have hother : i ∉ List.replicate turnsOfJob n := by simp [hin]
      rw [getElem?_turns_of_notMem _ _ _ hother] at hjob
      exact ⟨(ih i job hjob).1, fun hi => (ih i job hjob).2 (by omega)⟩

/-- **Every job comes to its end**, in any order of turns that two rounds follow. -/
theorem isDone_turns (fleet : Fleet) (hplaces : 0 < places) (order : List Nat) :
    (fleet.turns database source places
      (order ++ inOrder fleet.jobs.length ++ inOrder fleet.jobs.length)).isDone := by
  rw [turns_append, turns_append]
  have hlength := length_turns database source places fleet order
  have hround := length_turns database source places
    (fleet.turns database source places order) (inOrder fleet.jobs.length)
  refine List.all_eq_true.mpr fun job hjob => ?_
  obtain ⟨i, hi⟩ := List.mem_iff_getElem?.mp hjob
  have hidle : ∀ job ∈ ((fleet.turns database source places order).turns database source places
      (inOrder fleet.jobs.length)).jobs, job.stage.isIdle := by
    intro job hjob
    obtain ⟨j, hj⟩ := List.mem_iff_getElem?.mp hjob
    have hlt := (List.getElem?_eq_some_iff.mp hj).1
    exact idle_of_round database source places fleet.jobs.length (by omega) (by omega) hj
  have hlt := (List.getElem?_eq_some_iff.mp hi).1
  rw [length_turns] at hlt
  have hdone := (done_of_round database source places hidle hplaces fleet.jobs.length (by omega)
    i job hi).2 (by omega)
  rw [hdone]
  rfl

end Fleet

end SqlNotebook.FanOut
