/-
SqlNotebook/Proofs/FanOut/Accounts.lean

The four accounts of a fan-out, each balanced by the law of the ledger: the
queries that are open against the jobs that have come to their end, the tables
that are held against those that have been fetched, the failures that are yet to
be recorded against the calls that have failed, and, in a run without failures,
the queries that are yet to be sent against those that have been.
-/
import SqlNotebook.Proofs.FanOut.Ledger

namespace SqlNotebook.FanOut.Fleet

variable (database : Database) (source : Source) (places : Nat)
variable (fleet : Fleet) {job : Job} (order : List Nat)

/-! ### Queries of the jobs that are open -/

theorem keepsBalance_open :
    KeepsBalance database source places Job.open? (fun _ job => job.ending?.map (·.1))
      (fun _ _ => none) fleet job := by
  rw [KeepsBalance]
  obtain ⟨stage, hmoved, hmoves⟩ := exists_moved database source places fleet job
  rcases job with ⟨sql, earlier⟩
  rw [hmoved]
  cases hmoves <;> exact .refl _

/-- Every job is open, or it has come to its end. -/
theorem perm_open :
    ((fleet.turns database source places order).jobs.filterMap Job.open? ++
        (fleet.ended database source places order).map (·.1)).Perm
      (fleet.jobs.filterMap Job.open?) := by
  have balance := perm_turns _ _ _ order fleet fun done i rest _ job _ =>
    keepsBalance_open database source places (fleet.turns database source places done)
  rw [along_none, List.append_nil] at balance
  rwa [ended, ← along_map]

/-! ### Tables -/

variable {fleet} in
theorem keepsBalance_held (hjob : job.Described database) :
    KeepsBalance database source places Job.held? (fun _ => Job.bringing?)
      (fetching? database source) fleet job := by
  rw [KeepsBalance]
  obtain ⟨stage, hmoved, hmoves⟩ := exists_moved database source places fleet job
  rcases job with ⟨sql, earlier⟩
  rw [hmoved]
  cases hmoves with
  | fetch connection statement table reply =>
    obtain ⟨rfl, -⟩ : statement.sql = sql ∧ _ := hjob
    simp [Job.held?, Job.bringing?, Job.ending?, fetching?, call?, Database.fetched?, reply]
  | failFetch connection statement error reply =>
    simp [Job.held?, Job.bringing?, Job.ending?, fetching?, call?, Database.fetched?, reply]
  -- a job that stops keeps no table, any other one keeps what it has
  | close _ table | leave table | finish table => rcases table <;> exact .refl _
  | _ => exact .refl _

/-- Every table that has been fetched is held by a job, or has been handed over. -/
theorem perm_held (h : fleet.Described database) :
    ((fleet.turns database source places order).jobs.filterMap Job.held? ++
        along database source places (fun _ => Job.bringing?) fleet order).Perm
      (fleet.jobs.filterMap Job.held? ++
        database.fetches fleet.history (fleet.calls database source places order)) := by
  have balance := perm_turns _ _ _ order fleet fun done i rest _ job hjob =>
    keepsBalance_held database source places (h.turns job (List.mem_of_getElem? hjob))
  refine balance.trans (List.Perm.append_left _ ?_)
  rw [Database.fetches, collect_calls]
  exact (List.reverse_perm _).symm

/-! ### Failures -/

theorem keepsBalance_unrecorded :
    KeepsBalance database source places Job.unrecorded? (fun _ => Job.recording?)
      (failing? database source) fleet job := by
  rw [KeepsBalance]
  obtain ⟨stage, hmoved, hmoves⟩ := exists_moved database source places fleet job
  rcases job with ⟨sql, earlier⟩
  rw [hmoved]
  cases hmoves with
  | connect reply | refuse _ reply | prepare _ _ reply | failPrepare _ _ reply
  | fetch _ _ _ reply | failFetch _ _ _ reply =>
    simp [Job.unrecorded?, Job.recording?, failing?, call?, Database.failure?, reply]
  | _ => exact .refl _

/-- Every call that has failed leaves a failure that a job is going to record, or
one that has been recorded. -/
theorem perm_unrecorded :
    ((fleet.turns database source places order).jobs.filterMap Job.unrecorded? ++
        fleet.recorded database source places order).Perm
      (fleet.jobs.filterMap Job.unrecorded? ++
        database.failures fleet.history (fleet.calls database source places order)) := by
  have balance := perm_turns _ _ _ order fleet fun done i rest _ job _ =>
    keepsBalance_unrecorded database source places (fleet.turns database source places done)
  refine balance.trans (List.Perm.append_left _ ?_)
  rw [Database.failures, collect_calls]
  exact (List.reverse_perm _).symm

/-! ### Runs without failures -/

/-- No job has stopped, or has a failure that it has yet to record. -/
def Smooth (fleet : Fleet) : Prop :=
  ∀ job ∈ fleet.jobs, job.hasStopped = false ∧ job.unrecorded? = none

variable {fleet} in
/-- A run in which no call fails is smooth, and records no failure. -/
theorem smooth_turns (hjustified : fleet.Justified) (hsmooth : fleet.Smooth)
    (hfailure : fleet.failure = none)
    (h : database.failures fleet.history (fleet.calls database source places order) = []) :
    (fleet.turns database source places order).Smooth ∧
      (fleet.turns database source places order).failure = none := by
  have balance := perm_unrecorded database source places fleet order
  have start : fleet.jobs.filterMap Job.unrecorded? = [] :=
    List.filterMap_eq_nil_iff.mpr fun job hjob => (hsmooth job hjob).2
  rw [start, h, List.append_nil, List.perm_nil, List.append_eq_nil_iff] at balance
  -- nothing has failed, so nothing is to be recorded, and nothing has been
  obtain ⟨hunrecorded, hrecorded⟩ := balance
  have hnone : (fleet.turns database source places order).failure = none := by
    rw [failure_turns, hfailure, hrecorded]
    rfl
  refine ⟨fun job hjob => ⟨?_, List.filterMap_eq_nil_iff.mp hunrecorded job hjob⟩, hnone⟩
  -- a job that has stopped would have a failure that has been recorded
  rcases hstopped : job.hasStopped with - | -
  · rfl
  · have hsome := hjustified.turns (.inr ⟨job, hjob, hstopped⟩)
    rw [hnone] at hsome
    cases hsome

variable {fleet} in
theorem keepsBalance_unsent
    (hstopped : (fleet.moved database source places job).hasStopped = false)
    (hunrecorded : (fleet.moved database source places job).unrecorded? = none) :
    KeepsBalance database source places Job.unsent? (fun _ => Job.sending?)
      (fun _ _ => none) fleet job := by
  rw [KeepsBalance]
  obtain ⟨stage, hmoved, hmoves⟩ := exists_moved database source places fleet job
  rcases job with ⟨sql, earlier⟩
  rw [hmoved] at hstopped hunrecorded ⊢
  cases hmoves with
  -- the three ways to leave without having sent the query
  | skip | skipQuery => cases hstopped
  | refuse => cases hunrecorded
  | _ => exact .refl _

variable {fleet} in
/-- In a run in which no call fails, every query is yet to be sent, or has been. -/
theorem perm_unsent (hjustified : fleet.Justified) (hsmooth : fleet.Smooth)
    (hfailure : fleet.failure = none)
    (h : database.failures fleet.history (fleet.calls database source places order) = []) :
    ((fleet.turns database source places order).jobs.filterMap Job.unsent? ++
        along database source places (fun _ => Job.sending?) fleet order).Perm
      (fleet.jobs.filterMap Job.unsent?) := by
  have law (done : List Nat) (i : Nat) (rest : List Nat) (hsplit : order = done ++ i :: rest)
      (job : Job) (hjob : (fleet.turns database source places done).jobs[i]? = some job) :
      KeepsBalance database source places Job.unsent? (fun _ => Job.sending?)
        (fun _ _ => none) (fleet.turns database source places done) job := by
    -- the run up to this turn, and with it, has no failures either
    have hprefix : database.failures fleet.history
        (fleet.calls database source places (done ++ [i])) = [] := by
      rw [hsplit, List.append_cons, Database.failures, collect_calls, along_append,
        List.reverse_append, List.append_eq_nil_iff] at h
      rw [Database.failures, collect_calls]
      exact h.2
    obtain ⟨hnext, -⟩ :=
      smooth_turns database source places (done ++ [i]) hjustified hsmooth hfailure hprefix
    rw [turns_append] at hnext
    obtain ⟨hstopped, hunrecorded⟩ := hnext _ (List.mem_of_getElem? (getElem?_turn hjob))
    exact keepsBalance_unsent database source places hstopped hunrecorded
  have balance := perm_turns _ _ _ order fleet law
  rwa [along_none, List.append_nil] at balance

variable {fleet} in
/-- A job that comes to its end without a table does so after a failure has been
recorded. -/
theorem isSome_failure_of_ended (hjustified : fleet.Justified) {sql : String}
    (h : (sql, none) ∈ fleet.ended database source places order) :
    (fleet.turns database source places order).failure.isSome := by
  obtain ⟨done, rest, rfl, job, hjob, hending⟩ := exists_of_mem_along fleet order h
  have hstopped : job.hasStopped := by
    rcases job with ⟨sql', stage⟩
    cases stage <;> simp_all [Job.ending?, Job.hasStopped]
  have hdone := (hjustified.turns (.inr ⟨job, hjob, hstopped⟩) :
    (fleet.turns database source places done).failure.isSome)
  rw [turns_append, failure_turns, Option.isSome_or, hdone, Bool.true_or]

/-! ### Complete runs -/

variable (queries : List String) (history : History)

theorem justified_start : (start queries history).Justified := by
  rintro (h | ⟨job, hjob, hstopped⟩)
  · cases h
  · obtain ⟨sql, -, rfl⟩ := List.mem_map.mp hjob
    cases hstopped

theorem smooth_start : (start queries history).Smooth := by
  intro job hjob
  obtain ⟨sql, -, rfl⟩ := List.mem_map.mp hjob
  exact ⟨rfl, rfl⟩

theorem described_start : (start queries history).Described database := by
  intro job hjob
  obtain ⟨sql, -, rfl⟩ := List.mem_map.mp hjob
  trivial

/-- Jobs that have not begun hold their queries. -/
theorem filterMap_start_eq {holds : Job → Option String}
    (h : ∀ sql, holds ⟨sql, .waiting⟩ = some sql) :
    (start queries history).jobs.filterMap holds = queries := by
  rw [start, List.filterMap_map, show holds ∘ (fun sql => ⟨sql, .waiting⟩) = some from funext h,
    List.filterMap_some]

/-- Jobs that have not begun hold nothing else. -/
theorem filterMap_start_eq_nil {α : Type} {holds : Job → Option α}
    (h : ∀ sql, holds ⟨sql, .waiting⟩ = none) :
    (start queries history).jobs.filterMap holds = [] := by
  refine List.filterMap_eq_nil_iff.mpr fun job hjob => ?_
  obtain ⟨sql, -, rfl⟩ := List.mem_map.mp hjob
  exact h sql

variable {fleet} in
/-- What jobs hold that have come to their end. -/
theorem filterMap_of_isDone {α : Type} {holds : Job → Option α} (hdone : fleet.isDone)
    (h : ∀ sql, holds ⟨sql, .done⟩ = none) : fleet.jobs.filterMap holds = [] := by
  refine List.filterMap_eq_nil_iff.mpr fun job hjob => ?_
  have hstage := List.all_eq_true.mp hdone job hjob
  rcases job with ⟨sql, stage⟩
  cases stage <;> first | exact h sql | cases hstage

section Complete

variable {queries history order}
variable (hdone : ((start queries history).turns database source places order).isDone)
include hdone

/-- Every job comes to its end once. -/
theorem perm_ended :
    (((start queries history).ended database source places order).map (·.1)).Perm queries := by
  have balance := perm_open database source places (start queries history) order
  rw [filterMap_of_isDone hdone fun _ => rfl,
    filterMap_start_eq queries history fun _ => rfl, List.nil_append] at balance
  exact balance

/-- Every table that is fetched is handed over once. -/
theorem perm_brought :
    (along database source places (fun _ => Job.bringing?) (start queries history) order).Perm
      (database.fetches history
        ((start queries history).calls database source places order)) := by
  have balance := perm_held database source places (start queries history) order
    (described_start database queries history)
  rw [filterMap_of_isDone hdone fun _ => rfl,
    filterMap_start_eq_nil queries history fun _ => rfl, List.nil_append, List.nil_append]
    at balance
  exact balance

/-- Every failure of a call is recorded once. -/
theorem perm_recorded :
    ((start queries history).recorded database source places order).Perm
      (database.failures history
        ((start queries history).calls database source places order)) := by
  have balance := perm_unrecorded database source places (start queries history) order
  rw [filterMap_of_isDone hdone fun _ => rfl,
    filterMap_start_eq_nil queries history fun _ => rfl, List.nil_append, List.nil_append]
    at balance
  exact balance

/-- If no call fails, every query is sent once. -/
theorem perm_issued
    (h : database.failures history
      ((start queries history).calls database source places order) = []) :
    ((start queries history).turns database source places order).issued.Perm queries := by
  have balance := perm_unsent database source places order (justified_start queries history)
    (smooth_start queries history) rfl h
  rw [filterMap_of_isDone hdone fun _ => rfl,
    filterMap_start_eq queries history fun _ => rfl, List.nil_append] at balance
  rw [issued_turns]
  exact balance

end Complete

end SqlNotebook.FanOut.Fleet
