/-
SqlNotebook/Proofs/FanOut/Outcome.lean

A fan-out brings all tables, or it fails with the first failure:

    no call of a job fails   →  the rows of all tables, each table once
    some call of a job fails →  the failure that was recorded first

Nothing is assumed about the database, and nothing about the order in which the
jobs take their turns.  Once all jobs have come to their end, the accounts have
nothing left in them, so that what has been handed over is what has been
fetched, and what has been recorded is what has failed.
-/
import SqlNotebook.FanOut.Scripted
import SqlNotebook.Proofs.FanOut.Accounts
import SqlNotebook.Proofs.FanOut.Completion

namespace SqlNotebook.FanOut

/-- A report brings together what has been fetched for the given queries: the
rows of each table once, in some order of the tables. -/
structure Report.Gathers (report : Report) (queries : List String)
    (fetched : List (String × ResultTable)) : Prop where
  partitions : report.partitions = queries.length
  rows : ∃ parts : List (String × ResultTable),
    parts.Perm fetched ∧ (parts.map (·.1)).Perm queries ∧
      report.table.rows = parts.flatMap (·.2.rows)
  index : report.table.index = List.range report.table.rows.length
  issued : report.issued.Perm queries

/-! ### What jobs bring that have come to their end -/

namespace Fleet

variable {database : Database} {source : Source} {places : Nat}
variable (fleet : Fleet) (order : List Nat)

theorem along_bringing :
    along database source places (fun _ => Job.bringing?) fleet order =
      (fleet.ended database source places order).filterMap fun part =>
        part.2.map (part.1, ·) :=
  along_bind fleet order (fun _ => Job.ending?) fun part =>
    part.2.map (part.1, ·)

/-- The tables that have been handed over are those that jobs have brought. -/
theorem map_snd_brought :
    (along database source places (fun _ => Job.bringing?) fleet order).map (·.2) =
      (fleet.ended database source places order).filterMap (·.2) := by
  rw [along_bringing, List.map_filterMap]
  congr 1
  funext ⟨sql, table⟩
  cases table <;> rfl

/-- If every job has come to its end with a table, then each has brought one. -/
theorem map_fst_brought
    (h : ∀ sql, (sql, none) ∉ fleet.ended database source places order) :
    (along database source places (fun _ => Job.bringing?) fleet order).map (·.1) =
      (fleet.ended database source places order).map (·.1) := by
  rw [along_bringing]
  generalize fleet.ended database source places order = ended at h
  induction ended with
  | nil => rfl
  | cons part ended ih =>
    rcases part with ⟨sql, - | table⟩
    · exact absurd List.mem_cons_self (h sql)
    · have ih := ih fun other hother => h other (List.mem_cons_of_mem _ hother)
      simpa using ih

variable {order}
variable {queries : List String} {history : History}
variable (hdone : ((start queries history).turns database source places order).isDone)
include hdone

/-- If no call of a job fails, the result is a report of all tables. -/
theorem result_of_succeeds
    (h : database.failures history
      ((start queries history).calls database source places order) = []) :
    ∃ report, ((start queries history).turns database source places order).result = .ok report ∧
      report.Gathers queries
        (database.fetches history
          ((start queries history).calls database source places order)) := by
  obtain ⟨-, hnone⟩ := smooth_turns database source places order (justified_start queries history)
    (smooth_start queries history) rfl h
  -- no job has come to its end without a table
  have hended (sql : String) :
      (sql, none) ∉ (start queries history).ended database source places order := by
    intro hmem
    have hsome := isSome_failure_of_ended database source places order
      (justified_start queries history) hmem
    rw [hnone] at hsome
    cases hsome
  have hlength := length_turns database source places (start queries history) order
  refine ⟨_, by rw [result, hnone], ?_, ⟨along database source places (fun _ => Job.bringing?)
    (start queries history) order, perm_brought database source places hdone, ?_, ?_⟩, rfl, ?_⟩
  · rw [hlength]
    exact List.length_map _
  · rw [map_fst_brought _ _ hended]
    exact perm_ended database source places hdone
  · change (ResultTable.concat _).rows = _
    rw [ResultTable.rows_concat, tables_turns, ← map_snd_brought, List.flatMap_append,
      List.flatMap_map]
    rfl
  · exact perm_issued database source places hdone h

/-- If a call of a job fails, the result is the failure that was recorded first. -/
theorem result_of_fails
    (h : database.failures history
      ((start queries history).calls database source places order) ≠ []) :
    ∃ error others,
      (start queries history).recorded database source places order = error :: others ∧
        ((start queries history).turns database source places order).result =
          .error (partitionError error) := by
  have hperm := perm_recorded database source places hdone
  have hfailure : ((start queries history).turns database source places order).failure =
      ((start queries history).recorded database source places order).head? :=
    failure_turns _ _
  rcases hrecorded : (start queries history).recorded database source places order with
    - | ⟨error, others⟩
  · rw [hrecorded] at hperm
    exact absurd hperm.nil_eq.symm h
  · rw [hrecorded] at hfailure
    exact ⟨error, others, rfl, by rw [result, hfailure]; rfl⟩

end Fleet

/-! ### Requests -/

variable (engine : Engine) (session : Connection) (source : Source) (request : Request)

/-- A request that does not pass its checks is rejected with what they say. -/
theorem run_of_rejected {error : Error} {earlier later : History}
    (h : (validate engine.database session request).run earlier = (.error error, later)) :
    (run engine session source request).run earlier = (.error error, later) := by
  rw [run, Talk.run_bind, h]

/-- A request that passes its checks with enough workers is run by jobs. -/
theorem run_of_validated {plan : Plan} {earlier validated : History}
    (hvalid : (validate engine.database session request).run earlier = (.ok plan, validated))
    (hworkers : minWorkers ≤ request.workers) :
    (run engine session source request).run earlier =
      (runParallel engine source (min request.workers maxWorkers)
        (plan.queries request.name)).run validated := by
  rw [run, Talk.run_bind, hvalid]
  simp only
  rw [if_neg (Nat.not_lt.mpr hworkers)]

/-- With enough workers there are places for jobs. -/
theorem places_pos {workers : Nat} (h : minWorkers ≤ workers) : 0 < min workers maxWorkers := by
  have hpositive : 0 < minWorkers := by decide
  have hmax : 0 < maxWorkers := by decide
  omega

/-- The jobs of an engine come to their end. -/
theorem isDone_schedule {places : Nat} (hplaces : 0 < places) (queries : List String)
    (history : History) :
    ((Fleet.start queries history).turns engine.database source places
      (schedule engine queries.length)).isDone := by
  have hdone := Fleet.isDone_turns engine.database source places
    (Fleet.start queries history) hplaces (engine.order queries.length)
  rwa [show (Fleet.start queries history).jobs.length = queries.length from List.length_map _]
    at hdone

/-- Two queries that run in turns, the second of which is lost. -/
def lostPair : Engine :=
  (Script.losing "2" .fetch (.connection "lost")).engine fun _ => [0, 1, 0, 1, 0, 1, 0, 1]

/-- A request with two items. -/
def pairRequest : Request :=
  ⟨"SELECT :n", "n", .list [.integer 1, .integer 2], 2⟩

end SqlNotebook.FanOut
