/-
SqlNotebook/Proofs/FanOut/Turns.lean

What a fleet is after turns in a given order.  A turn moves one job on, and
changes what the jobs share by what this job does:

    turn i fleet  =  what `jobs[i]` leaves, with `jobs[i]` moved on

`along` lists what the jobs do in their turns: the calls, the failures that are
recorded, the queries that are sent, the jobs that come to their end.  What the
jobs share after a run is what they shared before it, and behind that what has
been done along the run.
-/
import SqlNotebook.Proofs.FanOut.Calls

namespace SqlNotebook.FanOut

namespace Job

/-- The failure that a job records in its turn. -/
def recording? (job : Job) : Option Error :=
  match job.stage with
  | .failed error => some error
  | _ => none

/-- The query that a job sends in its turn. -/
def sending? (job : Job) : Option String :=
  match job.stage with
  | .sending _ => some job.sql
  | _ => none

/-- The query and the table of a job that comes to its end in its turn. -/
def ending? (job : Job) : Option (String × Option ResultTable) :=
  match job.stage with
  | .left table => some (job.sql, table)
  | _ => none

/-- Whether a job calls the fan-out off in its turn. -/
def isCancelling (job : Job) : Bool :=
  match job.stage with
  | .recorded => true
  | _ => false

end Job

namespace Fleet

variable (database : Database) (source : Source) (places : Nat)

/-- The given job behind its turn. -/
def moved (fleet : Fleet) (job : Job) : Job :=
  { job with stage := (fleet.advance database source places job).1 }

/-- How a job with the query `sql` moves on. -/
inductive Moves (fleet : Fleet) (sql : String) : Stage → Stage → Prop
  | wait (full : ¬ fleet.running < places) : Moves fleet sql .waiting .waiting
  | enter (free : fleet.running < places) : Moves fleet sql .waiting .admitted
  | clear (runs : fleet.cancelled = false) : Moves fleet sql .admitted .cleared
  | skip (stops : fleet.cancelled = true) : Moves fleet sql .admitted (.leaving none)
  | connect (reply : database.reply fleet.history
      (.connect (.next source fleet.history)) = .ok ()) :
      Moves fleet sql .cleared (.connected (.next source fleet.history))
  | refuse (error : Error) (reply : database.reply fleet.history
      (.connect (.next source fleet.history)) = .error error) :
      Moves fleet sql .cleared (.failed error)
  | proceed (connection : Connection) (runs : fleet.cancelled = false) :
      Moves fleet sql (.connected connection) (.sending connection)
  | skipQuery (connection : Connection) (stops : fleet.cancelled = true) :
      Moves fleet sql (.connected connection) (.closing connection (.ok none))
  | send (connection : Connection) :
      Moves fleet sql (.sending connection) (.issued connection)
  | prepare (connection : Connection) (columns : List Column)
      (reply : database.reply fleet.history (.prepare connection sql) = .ok columns) :
      Moves fleet sql (.issued connection) (.prepared connection ⟨sql, columns⟩)
  | failPrepare (connection : Connection) (error : Error)
      (reply : database.reply fleet.history (.prepare connection sql) = .error error) :
      Moves fleet sql (.issued connection) (.closing connection (.error error))
  | goOn (connection : Connection) (statement : Prepared) (runs : fleet.cancelled = false) :
      Moves fleet sql (.prepared connection statement) (.ready connection statement)
  | skipFetch (connection : Connection) (statement : Prepared) (stops : fleet.cancelled = true) :
      Moves fleet sql (.prepared connection statement) (.closing connection (.ok none))
  | fetch (connection : Connection) (statement : Prepared) (table : ResultTable)
      (reply : database.reply fleet.history (.fetch connection statement) = .ok table) :
      Moves fleet sql (.ready connection statement) (.closing connection (.ok (some table)))
  | failFetch (connection : Connection) (statement : Prepared) (error : Error)
      (reply : database.reply fleet.history (.fetch connection statement) = .error error) :
      Moves fleet sql (.ready connection statement) (.closing connection (.error error))
  | close (connection : Connection) (table : Option ResultTable) :
      Moves fleet sql (.closing connection (.ok table)) (.leaving table)
  | closeFailed (connection : Connection) (error : Error) :
      Moves fleet sql (.closing connection (.error error)) (.failed error)
  | record (error : Error) : Moves fleet sql (.failed error) .recorded
  | cancel : Moves fleet sql .recorded (.leaving none)
  | leave (table : Option ResultTable) : Moves fleet sql (.leaving table) (.left table)
  | finish (table : Option ResultTable) : Moves fleet sql (.left table) .done
  | rest : Moves fleet sql .done .done

/-- What the jobs do in their turns, in the given order. -/
def along {α : Type} (pick : Fleet → Job → Option α) : Fleet → List Nat → List α
  | _, [] => []
  | fleet, i :: order =>
    (fleet.jobs[i]?.bind (pick fleet)).toList ++
      along pick (fleet.turn database source places i) order

/-- The failures that are recorded, in order. -/
def recorded (fleet : Fleet) (order : List Nat) : List Error :=
  along database source places (fun _ => Job.recording?) fleet order

/-- The jobs that come to their end, in order, each with its query and its table. -/
def ended (fleet : Fleet) (order : List Nat) : List (String × Option ResultTable) :=
  along database source places (fun _ => Job.ending?) fleet order

/-- The calls that the jobs make, the last one first. -/
def calls (fleet : Fleet) (order : List Nat) : List Call :=
  (along database source places (call? source) fleet order).reverse

variable {database : Database} {source : Source} {places : Nat}
variable (fleet : Fleet) (job : Job) (i : Nat) (order : List Nat)

/-! ### Single turns -/

/-- All that a turn of a job can come to. -/
theorem moves_advance :
    Moves database source places fleet job.sql job.stage
      (fleet.advance database source places job).1 := by
  rcases job with ⟨sql, stage⟩
  cases stage with
  | waiting =>
    by_cases free : fleet.running < places
    · simpa [advance, free] using Moves.enter free
    · simpa [advance, free] using Moves.wait free
  | admitted =>
    rcases h : fleet.cancelled with - | -
    · simpa [advance, h] using Moves.clear h
    · simpa [advance, h] using Moves.skip h
  | cleared =>
    rw [advance_cleared]
    rcases reply : database.reply fleet.history (.connect (.next source fleet.history)) with
      error | ⟨⟩
    · exact .refuse error reply
    · exact .connect reply
  | connected connection =>
    rcases h : fleet.cancelled with - | -
    · simpa [advance, h] using Moves.proceed connection h
    · simpa [advance, h] using Moves.skipQuery connection h
  | sending connection => exact .send connection
  | issued connection =>
    rw [advance_issued]
    rcases reply : database.reply fleet.history (.prepare connection sql) with error | columns
    · exact .failPrepare connection error reply
    · exact .prepare connection columns reply
  | prepared connection statement =>
    rcases h : fleet.cancelled with - | -
    · simpa [advance, h] using Moves.goOn connection statement h
    · simpa [advance, h] using Moves.skipFetch connection statement h
  | ready connection statement =>
    rw [advance_ready]
    rcases reply : database.reply fleet.history (.fetch connection statement) with error | table
    · exact .failFetch connection statement error reply
    · exact .fetch connection statement table reply
  | closing connection outcome =>
    rcases outcome with error | table
    · exact .closeFailed connection error
    · exact .close connection table
  | failed error => exact .record error
  | recorded => exact .cancel
  | leaving table => exact .leave table
  | left table => exact .finish table
  | done => exact .rest

variable (database source places) in
/-- All that can have become of a job behind its turn. -/
theorem exists_moved :
    ∃ stage, fleet.moved database source places job = ⟨job.sql, stage⟩ ∧
      Moves database source places fleet job.sql job.stage stage :=
  ⟨_, rfl, moves_advance fleet job⟩

/-- What a job changes of what the jobs share. -/
theorem snd_advance :
    (fleet.advance database source places job).2 =
      { fleet with
        history := (fleet.call? source job).toList ++ fleet.history
        failure := fleet.failure.or job.recording?
        cancelled := fleet.cancelled || job.isCancelling
        issued := fleet.issued ++ job.sending?.toList
        tables := fleet.tables ++ (job.ending?.bind (·.2)).toList } := by
  rcases job with ⟨sql, stage⟩
  cases stage with
  -- the four stages that make a call, and those that make none
  | cleared | issued | ready | closing =>
    simp [advance_cleared, advance_issued, advance_ready, advance_closing, called, call?,
      Job.recording?, Job.isCancelling, Job.sending?, Job.ending?]
  | _ => simp [advance, call?, Job.recording?, Job.isCancelling, Job.sending?, Job.ending?]

theorem jobs_advance : (fleet.advance database source places job).2.jobs = fleet.jobs := by
  rw [snd_advance]

variable {fleet job i}

theorem turn_of_some (h : fleet.jobs[i]? = some job) :
    fleet.turn database source places i =
      { (fleet.advance database source places job).2 with
        jobs := fleet.jobs.set i (fleet.moved database source places job) } := by
  rw [turn, h]
  simp only [jobs_advance]
  rfl

theorem turn_of_none (h : fleet.jobs[i]? = none) :
    fleet.turn database source places i = fleet := by
  rw [turn, h]

theorem jobs_turn (h : fleet.jobs[i]? = some job) :
    (fleet.turn database source places i).jobs =
      fleet.jobs.set i (fleet.moved database source places job) := by
  rw [turn_of_some h]

/-- A turn leaves the jobs of others alone. -/
theorem getElem?_turn_of_ne {j : Nat} (hij : i ≠ j) :
    (fleet.turn database source places i).jobs[j]? = fleet.jobs[j]? := by
  rcases h : fleet.jobs[i]? with - | job
  · rw [turn_of_none h]
  · rw [jobs_turn h, List.getElem?_set_ne hij]

theorem getElem?_turn (h : fleet.jobs[i]? = some job) :
    (fleet.turn database source places i).jobs[i]? =
      some (fleet.moved database source places job) := by
  have hi : i < fleet.jobs.length := (List.getElem?_eq_some_iff.mp h).1
  rw [jobs_turn h, List.getElem?_set_self hi]

/-- A job behind a turn is one that has not moved, or the one that has. -/
theorem mem_jobs_turn (h : job ∈ (fleet.turn database source places i).jobs) :
    job ∈ fleet.jobs ∨
      ∃ earlier ∈ fleet.jobs, job = fleet.moved database source places earlier := by
  rcases hi : fleet.jobs[i]? with - | earlier
  · rw [turn_of_none hi] at h
    exact .inl h
  · rw [jobs_turn hi] at h
    rcases List.mem_or_eq_of_mem_set h with h | rfl
    · exact .inl h
    · exact .inr ⟨earlier, List.mem_of_getElem? hi, rfl⟩

/-- What the jobs share behind a turn. -/
theorem turn_eq :
    fleet.turn database source places i =
      { jobs := (fleet.turn database source places i).jobs
        history := (fleet.jobs[i]?.bind (fleet.call? source)).toList ++ fleet.history
        failure := fleet.failure.or (fleet.jobs[i]?.bind Job.recording?)
        cancelled := fleet.cancelled || fleet.jobs[i]?.any Job.isCancelling
        issued := fleet.issued ++ (fleet.jobs[i]?.bind Job.sending?).toList
        tables := fleet.tables ++ ((fleet.jobs[i]?.bind Job.ending?).bind (·.2)).toList } := by
  rcases h : fleet.jobs[i]? with - | job
  · rw [turn_of_none h]
    simp
  · rw [turn_of_some h, snd_advance]
    rfl

theorem history_turn :
    (fleet.turn database source places i).history =
      (fleet.jobs[i]?.bind (fleet.call? source)).toList ++ fleet.history :=
  congrArg history turn_eq

theorem failure_turn :
    (fleet.turn database source places i).failure =
      fleet.failure.or (fleet.jobs[i]?.bind Job.recording?) :=
  congrArg failure turn_eq

theorem cancelled_turn :
    (fleet.turn database source places i).cancelled =
      (fleet.cancelled || fleet.jobs[i]?.any Job.isCancelling) :=
  congrArg cancelled turn_eq

theorem issued_turn :
    (fleet.turn database source places i).issued =
      fleet.issued ++ (fleet.jobs[i]?.bind Job.sending?).toList :=
  congrArg issued turn_eq

theorem tables_turn :
    (fleet.turn database source places i).tables =
      fleet.tables ++ ((fleet.jobs[i]?.bind Job.ending?).bind (·.2)).toList :=
  congrArg tables turn_eq

/-- A job keeps its query. -/
theorem map_sql_turn :
    (fleet.turn database source places i).jobs.map (·.sql) = fleet.jobs.map (·.sql) := by
  rcases h : fleet.jobs[i]? with - | job
  · rw [turn_of_none h]
  · obtain ⟨hi, rfl⟩ := List.getElem?_eq_some_iff.mp h
    have hmap : i < (fleet.jobs.map (·.sql)).length := by simpa using hi
    have hself := List.set_getElem_self hmap
    rw [List.getElem_map] at hself
    rw [jobs_turn h, List.map_set]
    exact hself

/-! ### Runs -/

theorem turns_nil : fleet.turns database source places [] = fleet := rfl

theorem turns_cons :
    fleet.turns database source places (i :: order) =
      (fleet.turn database source places i).turns database source places order := rfl

theorem turns_append (first second : List Nat) :
    fleet.turns database source places (first ++ second) =
      (fleet.turns database source places first).turns database source places second :=
  List.foldl_append

/-- What every turn preserves, every run preserves. -/
theorem turns_preserves (Holds : Fleet → Prop)
    (step : ∀ fleet i, Holds fleet → Holds (fleet.turn database source places i))
    (h : Holds fleet) : Holds (fleet.turns database source places order) := by
  induction order generalizing fleet with
  | nil => exact h
  | cons i order ih => exact ih (step fleet i h)

/-! ### Places -/

/-- A job that has a place behind its turn has had one before, or has found one free. -/
theorem isRunning_moved (h : (fleet.moved database source places job).stage.isRunning) :
    job.stage.isRunning ∨ fleet.running < places := by
  obtain ⟨stage, hmoved, hmoves⟩ := exists_moved database source places fleet job
  rw [hmoved] at h
  generalize job.stage = earlier at hmoves ⊢
  cases hmoves with
  | enter free => exact .inr free
  | wait | leave | finish | rest => cases h
  | _ => exact .inl rfl

/-- No more jobs run at the same time than there are places. -/
theorem running_turn_le (h : fleet.running ≤ places) :
    (fleet.turn database source places i).running ≤ places := by
  rcases hi : fleet.jobs[i]? with - | job
  · rwa [turn_of_none hi]
  · obtain ⟨hlt, rfl⟩ := List.getElem?_eq_some_iff.mp hi
    rw [running, jobs_turn hi, List.countP_set hlt]
    rw [running] at h
    by_cases hlater : (fleet.moved database source places fleet.jobs[i]).stage.isRunning
    · rw [if_pos hlater]
      rcases isRunning_moved hlater with hearlier | hfree
      · -- the job keeps the place that it has
        have hpositive : 0 < fleet.jobs.countP (·.stage.isRunning) :=
          List.countP_pos_iff.mpr ⟨_, List.getElem_mem hlt, hearlier⟩
        rw [if_pos hearlier]
        omega
      · rw [running] at hfree
        omega
    · rw [if_neg hlater]
      omega

theorem running_turns_le (h : fleet.running ≤ places) :
    (fleet.turns database source places order).running ≤ places :=
  turns_preserves order (·.running ≤ places) (fun _ _ => running_turn_le) h

variable (database source places) in
/-- Jobs that have not begun have no places, so those that have are never too many. -/
theorem running_turns_start_le (queries : List String) (history : History) (order : List Nat) :
    ((start queries history).turns database source places order).running ≤ places := by
  have hstart : (start queries history).running = 0 := by
    rw [running, start, List.countP_map, List.countP_eq_zero]
    exact fun _ _ => Bool.false_ne_true
  apply running_turns_le
  rw [hstart]
  exact Nat.zero_le places

variable (fleet)

theorem map_sql_turns :
    (fleet.turns database source places order).jobs.map (·.sql) = fleet.jobs.map (·.sql) :=
  turns_preserves order (fun later => later.jobs.map (·.sql) = fleet.jobs.map (·.sql))
    (fun _ _ h => map_sql_turn.trans h) rfl

theorem along_append {α : Type} (pick : Fleet → Job → Option α) (first second : List Nat) :
    along database source places pick fleet (first ++ second) =
      along database source places pick fleet first ++
        along database source places pick (fleet.turns database source places first) second := by
  induction first generalizing fleet with
  | nil => rfl
  | cons i first ih => rw [List.cons_append, along, along, ih, List.append_assoc, turns_cons]

theorem along_bind {α β : Type} (pick : Fleet → Job → Option α) (f : α → Option β) :
    along database source places (fun fleet job => (pick fleet job).bind f) fleet order =
      (along database source places pick fleet order).filterMap f := by
  induction order generalizing fleet with
  | nil => rfl
  | cons i order ih =>
    rw [along, along, ih, List.filterMap_append]
    rcases fleet.jobs[i]? with - | job
    · rfl
    · rcases h : pick fleet job with - | a
      · simp [h]
      · rcases hf : f a <;> simp [h, hf]

theorem along_map {α β : Type} (pick : Fleet → Job → Option α) (f : α → β) :
    along database source places (fun fleet job => (pick fleet job).map f) fleet order =
      (along database source places pick fleet order).map f := by
  simp only [Option.map_eq_bind]
  rw [along_bind, List.filterMap_eq_map]

theorem along_none {α : Type} :
    along database source places (fun _ _ => (none : Option α)) fleet order = [] := by
  induction order generalizing fleet with
  | nil => rfl
  | cons i order ih =>
    rw [along, ih]
    rcases fleet.jobs[i]? <;> rfl

/-- What is done along a run is done by a job in its turn. -/
theorem exists_of_mem_along {α : Type} {pick : Fleet → Job → Option α} {a : α}
    (h : a ∈ along database source places pick fleet order) :
    ∃ done rest, order = done ++ rest ∧
      ∃ job ∈ (fleet.turns database source places done).jobs,
        pick (fleet.turns database source places done) job = some a := by
  induction order generalizing fleet with
  | nil => cases h
  | cons i order ih =>
    rw [along, List.mem_append, Option.mem_toList] at h
    rcases h with h | h
    · obtain ⟨job, hjob, hpick⟩ := Option.bind_eq_some_iff.mp h
      exact ⟨[], i :: order, rfl, job, List.mem_of_getElem? hjob, hpick⟩
    · obtain ⟨done, rest, rfl, hdone⟩ := ih _ h
      exact ⟨i :: done, rest, rfl, hdone⟩

theorem history_turns :
    (fleet.turns database source places order).history =
      fleet.calls database source places order ++ fleet.history := by
  induction order generalizing fleet with
  | nil => rfl
  | cons i order ih =>
    rw [turns_cons, ih, history_turn, calls, calls, along, List.reverse_append,
      List.append_assoc]
    rcases fleet.jobs[i]?.bind (fleet.call? source) <;> rfl

/-- The failure that is kept is the first one that is recorded. -/
theorem failure_turns :
    (fleet.turns database source places order).failure =
      fleet.failure.or (fleet.recorded database source places order).head? := by
  induction order generalizing fleet with
  | nil => simp [turns, recorded, along]
  | cons i order ih =>
    rw [turns_cons, ih, failure_turn, recorded, recorded, along]
    -- a failure that is kept already is not replaced
    rcases fleet.failure with - | error
    · rcases fleet.jobs[i]?.bind Job.recording? with - | error <;> simp
    · simp

theorem issued_turns :
    (fleet.turns database source places order).issued =
      fleet.issued ++ along database source places (fun _ => Job.sending?) fleet order := by
  induction order generalizing fleet with
  | nil => simp [turns, along]
  | cons i order ih => rw [turns_cons, ih, issued_turn, along, List.append_assoc]

theorem tables_turns :
    (fleet.turns database source places order).tables =
      fleet.tables ++ (fleet.ended database source places order).filterMap (·.2) := by
  induction order generalizing fleet with
  | nil => simp [turns, ended, along]
  | cons i order ih =>
    rw [turns_cons, ih, tables_turn, ended, ended, along, List.filterMap_append, List.append_assoc]
    rcases fleet.jobs[i]?.bind Job.ending? with - | ⟨sql, - | table⟩ <;> rfl

/-- To go through the calls of a run is to go through the turns. -/
theorem collect_calls {α : Type} (pick : History → Call → Option α) :
    Database.collect pick fleet.history (fleet.calls database source places order) =
      (along database source places (fun fleet job => (fleet.call? source job).bind
        (pick fleet.history)) fleet order).reverse := by
  induction order generalizing fleet with
  | nil => rfl
  | cons i order ih =>
    have split : fleet.calls database source places (i :: order) =
        (fleet.turn database source places i).calls database source places order ++
          (fleet.jobs[i]?.bind (fleet.call? source)).toList := by
      rw [calls, calls, along, List.reverse_append]
      rcases fleet.jobs[i]?.bind (fleet.call? source) <;> rfl
    rw [split, Database.collect_append, ← history_turn, ih, along, List.reverse_append]
    rcases fleet.jobs[i]? with - | job
    · rfl
    · -- the call of this turn lies on what the history is now
      rcases hcall : fleet.call? source job with - | call
      · simp [hcall, Database.collect]
      · rcases hpick : pick fleet.history call with - | a <;>
          simp [hcall, hpick, Database.collect]

end Fleet

end SqlNotebook.FanOut
