/-
SqlNotebook/Proofs/FanOut/Ledger.lean

Nothing gets lost between the jobs of a fan-out.  Each job holds at most one
thing of a kind: a query that is yet to be sent, a table that it has not handed
over, a failure that it has not recorded.  What the jobs hold, and what they have
given away along a run, is what they have held before the run, and what they have
been given along it:

    holds (turns order) ++ outflow  ~  holds ++ inflow

This comes down to the same law about one turn of one job (`perm_turns`).  A job
that stops without a failure of its own does so because a failure has been
recorded (`Justified`), so that a run without failures loses nothing at all.
-/
import SqlNotebook.Proofs.FanOut.Turns

namespace SqlNotebook

/-- A statement as the database has described it at some point. -/
def Database.Describes (database : Database) (statement : Prepared) : Prop :=
  ∃ before connection,
    database.reply before (.prepare connection statement.sql) = .ok statement.columns

namespace FanOut

namespace Job

/-! ### What a job holds -/

/-- The query of a job that has not come to its end. -/
def open? (job : Job) : Option String :=
  match job.stage with
  | .done => none
  | _ => some job.sql

/-- The query that a job has yet to send. -/
def unsent? (job : Job) : Option String :=
  match job.stage with
  | .waiting | .admitted | .cleared | .connected _ | .sending _ => some job.sql
  | _ => none

/-- The query and the table of a job that has a table to hand over. -/
def held? (job : Job) : Option (String × ResultTable) :=
  match job.stage with
  | .closing _ (.ok (some table)) | .leaving (some table) | .left (some table) =>
    some (job.sql, table)
  | _ => none

/-- The failure that a job has yet to record. -/
def unrecorded? (job : Job) : Option Error :=
  match job.stage with
  | .closing _ (.error error) | .failed error => some error
  | _ => none

/-- What a job brings when it comes to its end. -/
def bringing? (job : Job) : Option (String × ResultTable) :=
  job.ending?.bind fun part => part.2.map (part.1, ·)

/-- Whether a job has stopped without a table, and without a failure that it has
yet to record. -/
def hasStopped (job : Job) : Bool :=
  match job.stage with
  | .closing _ (.ok none) | .recorded | .leaving none | .left none => true
  | _ => false

/-- The statement of a job is its query, described by the database. -/
def Described (database : Database) (job : Job) : Prop :=
  match job.stage with
  | .prepared _ statement | .ready _ statement =>
    statement.sql = job.sql ∧ database.Describes statement
  | _ => True

end Job

namespace Fleet

variable {database : Database} {source : Source} {places : Nat}
variable {fleet : Fleet} {job : Job} {order : List Nat}

/-! ### The statements of the jobs -/

theorem described_moved (h : job.Described database) :
    (fleet.moved database source places job).Described database := by
  obtain ⟨stage, hmoved, hmoves⟩ := exists_moved database source places fleet job
  rcases job with ⟨sql, earlier⟩
  rw [hmoved]
  cases hmoves with
  | prepare connection columns reply => exact ⟨rfl, fleet.history, connection, reply⟩
  | goOn => exact h
  | _ => trivial

/-- The statements of all jobs are their queries, described by the database. -/
def Described (database : Database) (fleet : Fleet) : Prop :=
  ∀ job ∈ fleet.jobs, job.Described database

theorem Described.turns (h : fleet.Described database) :
    (fleet.turns database source places order).Described database := by
  refine turns_preserves order (·.Described database) (fun fleet i h job hjob => ?_) h
  rcases mem_jobs_turn hjob with hjob | ⟨earlier, hearlier, rfl⟩
  · exact h job hjob
  · exact described_moved (h earlier hearlier)

/-! ### Jobs that have stopped -/

/-- If the fan-out has been called off, or a job has stopped, then a failure has
been recorded. -/
def Justified (fleet : Fleet) : Prop :=
  fleet.cancelled = true ∨ (∃ job ∈ fleet.jobs, job.hasStopped) → fleet.failure.isSome

/-- A job stops if the fan-out has been called off, if it has stopped before, or
with a failure that it records. -/
theorem hasStopped_moved (h : (fleet.moved database source places job).hasStopped) :
    fleet.cancelled = true ∨ job.hasStopped ∨ job.recording?.isSome := by
  obtain ⟨stage, hmoved, hmoves⟩ := exists_moved database source places fleet job
  rcases job with ⟨sql, earlier⟩
  rw [hmoved] at h
  cases hmoves with
  | skip stops | skipQuery _ stops | skipFetch _ _ stops => exact .inl stops
  | record error => exact .inr (.inr rfl)
  | cancel => exact .inr (.inl rfl)
  | close _ table | leave table =>
    rcases table with - | table
    · exact .inr (.inl rfl)
    · cases h
  | _ => cases h

theorem hasStopped_of_isCancelling (h : job.isCancelling) : job.hasStopped := by
  rcases job with ⟨sql, stage⟩
  cases stage <;> simp_all [Job.isCancelling, Job.hasStopped]

theorem Justified.turn (h : fleet.Justified) (i : Nat) :
    (fleet.turn database source places i).Justified := by
  -- a failure that has been recorded is kept
  have keep (hfailure : fleet.failure.isSome) :
      (fleet.turn database source places i).failure.isSome := by
    rw [failure_turn, Option.isSome_or, hfailure, Bool.true_or]
  rintro (hcancelled | ⟨job, hjob, hstopped⟩)
  · rw [cancelled_turn, Bool.or_eq_true] at hcancelled
    rcases hcancelled with hcancelled | hcancelling
    · exact keep (h (.inl hcancelled))
    · rcases hi : fleet.jobs[i]? with - | job
      · simp [hi] at hcancelling
      · rw [hi, Option.any_some] at hcancelling
        have hstopped := hasStopped_of_isCancelling hcancelling
        exact keep (h (.inr ⟨job, List.mem_of_getElem? hi, hstopped⟩))
  · rcases hi : fleet.jobs[i]? with - | mover
    · rw [turn_of_none hi] at hjob ⊢
      exact h (.inr ⟨job, hjob, hstopped⟩)
    · rw [jobs_turn hi] at hjob
      rcases List.mem_or_eq_of_mem_set hjob with hjob | rfl
      · exact keep (h (.inr ⟨job, hjob, hstopped⟩))
      · rcases hasStopped_moved hstopped with hcancelled | hstopped | hrecording
        · exact keep (h (.inl hcancelled))
        · exact keep (h (.inr ⟨mover, List.mem_of_getElem? hi, hstopped⟩))
        · rw [failure_turn, hi, Option.bind_some, Option.isSome_or, hrecording, Bool.or_true]

theorem Justified.turns (h : fleet.Justified) :
    (fleet.turns database source places order).Justified :=
  turns_preserves order Justified (fun _ i h => h.turn i) h

/-! ### The law of the ledger -/

section Law

variable {α : Type} (holds : Job → Option α) (outflow inflow : Fleet → Job → Option α)

/-- What a list of jobs holds when one job is replaced by another one. -/
theorem count_filterMap_set [BEq α] (later : Job) (a : α) :
    ∀ (jobs : List Job) (i : Nat), jobs[i]? = some job →
      ((jobs.set i later).filterMap holds).count a + (holds job).toList.count a =
        (jobs.filterMap holds).count a + (holds later).toList.count a
  | [], _, h => by cases h
  | first :: jobs, 0, h => by
    -- the job that is replaced stands in front
    obtain rfl : first = job := by simpa using h
    rcases hfirst : holds first with - | x <;> rcases hlater : holds later with - | y <;>
      simp only [List.set_cons_zero, List.filterMap_cons, hfirst, hlater, Option.toList_none,
        Option.toList_some, List.count_cons, List.count_nil] <;> omega
  | first :: jobs, i + 1, h => by
    have ih := count_filterMap_set later a jobs i (by simpa using h)
    rcases hfirst : holds first with - | x
    · simpa [hfirst] using ih
    · simp only [List.set_cons_succ, List.filterMap_cons, hfirst, List.count_cons]
      omega

variable (database source places) in
/-- The turn of a job keeps its balance: what the job holds behind it and what it has
given away in it are what the job has held and what it has been given. -/
def KeepsBalance (fleet : Fleet) (job : Job) : Prop :=
  ((holds (fleet.moved database source places job)).toList ++ (outflow fleet job).toList).Perm
    ((holds job).toList ++ (inflow fleet job).toList)

/-- A turn that keeps the balance of its job keeps the balance of the fleet. -/
theorem perm_turn {i : Nat}
    (law : ∀ job, fleet.jobs[i]? = some job →
      KeepsBalance database source places holds outflow inflow fleet job) :
    ((fleet.turn database source places i).jobs.filterMap holds ++
        (fleet.jobs[i]?.bind (outflow fleet)).toList).Perm
      (fleet.jobs.filterMap holds ++ (fleet.jobs[i]?.bind (inflow fleet)).toList) := by
  classical
  rcases hi : fleet.jobs[i]? with - | job
  · rw [turn_of_none hi]
    rfl
  · -- the law of the one job, and all others as they were
    rw [jobs_turn hi, Option.bind_some, Option.bind_some]
    apply List.perm_iff_count.mpr
    intro a
    have hlaw := (law job hi).count_eq a
    have hset := count_filterMap_set holds
      (fleet.moved database source places job) a fleet.jobs i hi
    rw [List.count_append, List.count_append] at hlaw ⊢
    omega

/-- **The law of the ledger.**  If every turn keeps the balance of its job, then a
run keeps the balance of the fleet. -/
theorem perm_turns (order : List Nat) (fleet : Fleet)
    (law : ∀ done i rest, order = done ++ i :: rest → ∀ job,
      (fleet.turns database source places done).jobs[i]? = some job →
      KeepsBalance database source places holds outflow inflow
        (fleet.turns database source places done) job) :
    ((fleet.turns database source places order).jobs.filterMap holds ++
        along database source places outflow fleet order).Perm
      (fleet.jobs.filterMap holds ++ along database source places inflow fleet order) := by
  classical
  induction order generalizing fleet with
  | nil => rfl
  | cons i order ih =>
    -- the first turn, and the others from where it leads
    have first := perm_turn holds outflow inflow (law [] i order rfl)
    have others := ih (fleet.turn database source places i) (by
      intro done j rest hrest
      apply law (i :: done) j rest
      rw [hrest, List.cons_append])
    rw [turns_cons, along, along]
    apply List.perm_iff_count.mpr
    intro a
    have hfirst := first.count_eq a
    have hothers := others.count_eq a
    simp only [List.count_append, turns_nil] at hfirst hothers ⊢
    omega

end Law

end Fleet

end FanOut

end SqlNotebook
