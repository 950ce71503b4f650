/-
SqlNotebook/Proofs/FanOut/Connections.lean

The connections of the jobs.  A job asks for one connection, calls nothing else than
this connection, and closes it in the end, whatever the database answers and whenever
the fan-out is called off:

    connect c, prepare c …, fetch c …, close c

The connections that are asked for are numbered in the order in which this happens, so
no two jobs ask for the same one.  How many are open is an account of the ledger: a
connection that has been opened is held by a job that has a place, or it has been
closed.  Jobs that have come to their end hold none.
-/
import SqlNotebook.Proofs.FanOut.Log
import SqlNotebook.Proofs.FanOut.Outcome

namespace SqlNotebook

/-- The connection that a call closes. -/
def Call.closed? : Call → Option Connection
  | close connection => some connection
  | _ => none

/-- The connection that a call opens. -/
def Database.opened? (database : Database) (before : History) : Call → Option Connection
  | .connect connection =>
    match database.reply before (.connect connection) with
    | .ok _ => some connection
    | .error _ => none
  | _ => none

namespace Database

variable (database : Database)

/-- The connections that calls on top of `earlier` have opened, the last one first. -/
def opened : History → List Call → List Connection :=
  collect database.opened?

/-- Those of them that have not been closed. -/
def stillOpen (earlier : History) (calls : List Call) : List Connection :=
  (database.opened earlier calls).filter fun connection => .close connection ∉ calls

variable {database} {earlier : History} {calls : List Call} {connection : Connection}

theorem opened?_eq_some {before : History} {call : Call}
    (h : database.opened? before call = some connection) : call = .connect connection := by
  cases call with
  | connect other =>
    rw [opened?] at h
    split at h
    · cases h
      rfl
    · cases h
  | _ => cases h

/-- A connection that has been opened has been asked for. -/
theorem connect_mem_of_opened (h : connection ∈ database.opened earlier calls) :
    .connect connection ∈ calls := by
  obtain ⟨before, call, hcall, hopened⟩ := exists_of_mem_collect h
  rwa [opened?_eq_some hopened] at hcall

end Database

namespace FanOut

/-- The calls of somebody who has a connection and is going to close it, as far as they
have come. -/
def UsesThenCloses (connection : Connection) (calls : List Call) : Prop :=
  ∃ work closing, calls = work ++ closing ∧
    (∀ call ∈ work, call.connection = connection ∧ call.closed? = none) ∧
    closing.Sublist [.close connection]

namespace UsesThenCloses

variable {connection : Connection} {calls : List Call}

theorem of_sublist (h : calls.Sublist [.close connection]) : UsesThenCloses connection calls :=
  ⟨[], calls, rfl, List.forall_mem_nil _, h⟩

theorem nil : UsesThenCloses connection [] := of_sublist (List.nil_sublist _)

/-- One more call in front. -/
theorem cons (h : UsesThenCloses connection calls) {call : Call}
    (habout : call.connection = connection) (hopen : call.closed? = none) :
    UsesThenCloses connection (call :: calls) := by
  obtain ⟨work, closing, rfl, hwork, hclosing⟩ := h
  exact ⟨call :: work, closing, rfl, List.forall_mem_cons.mpr ⟨⟨habout, hopen⟩, hwork⟩, hclosing⟩

theorem connection_eq (h : UsesThenCloses connection calls) {call : Call} (hcall : call ∈ calls) :
    call.connection = connection := by
  obtain ⟨work, closing, rfl, hwork, hclosing⟩ := h
  rcases List.mem_append.mp hcall with hcall | hcall
  · exact (hwork call hcall).1
  · rw [List.mem_singleton.mp (hclosing.subset hcall)]
    rfl

/-- If the connection is closed, then once and in the end. -/
theorem exists_eq_append (h : UsesThenCloses connection calls)
    (hclose : .close connection ∈ calls) :
    ∃ work, calls = work ++ [.close connection] ∧ .close connection ∉ work := by
  obtain ⟨work, closing, rfl, hwork, hclosing⟩ := h
  have hmissing : Call.close connection ∉ work := fun hmem => nomatch (hwork _ hmem).2
  have hmem : Call.close connection ∈ closing :=
    (List.mem_append.mp hclose).resolve_left hmissing
  have hall : closing = [.close connection] :=
    hclosing.eq_of_length_le (List.length_pos_of_mem hmem)
  exact ⟨work, by rw [hall], hmissing⟩

end UsesThenCloses

namespace Stage

/-- The connection that a job at this stage has. -/
def connection? : Stage → Option Connection
  | connected connection => some connection
  | sending connection => some connection
  | issued connection => some connection
  | prepared connection _ => some connection
  | ready connection _ => some connection
  | closing connection _ => some connection
  | _ => none

/-- What a job may still call from this stage on. -/
def Leads (stage : Stage) (calls : List Call) : Prop :=
  match stage with
  | waiting | admitted | cleared =>
    calls = [] ∨ ∃ connection rest, calls = .connect connection :: rest ∧
      UsesThenCloses connection rest
  | connected connection | sending connection | issued connection | prepared connection _
  | ready connection _ => UsesThenCloses connection calls
  | closing connection _ => calls.Sublist [.close connection]
  | _ => calls = []

theorem leads_nil (stage : Stage) : stage.Leads [] := by
  cases stage with
  | waiting | admitted | cleared => exact .inl rfl
  | connected | sending | issued | prepared | ready => exact .nil
  | closing => exact List.nil_sublist _
  | _ => rfl

/-- A job that has a connection has a place. -/
theorem isRunning_of_connection? {stage : Stage} (h : stage.connection?.isSome) :
    stage.isRunning := by
  cases stage with
  | waiting | left | done => cases h
  | _ => rfl

end Stage

namespace Fleet

variable {database : Database} {source : Source} {places : Nat}
variable {fleet : Fleet} {job : Job} {i j : Nat} {order : List Nat}
variable {connection : Connection}

/-! ### One connection for each job -/

/-- In a turn, a job makes the next one of the calls that are left to it. -/
theorem leads_moved {calls : List Call}
    (h : (fleet.moved database source places job).stage.Leads calls) :
    job.stage.Leads ((fleet.call? source job).toList ++ calls) := by
  obtain ⟨stage, hmoved, hmoves⟩ := exists_moved database source places fleet job
  rcases job with ⟨sql, earlier⟩
  rw [hmoved] at h
  cases hmoves with
  | skip => exact .inl h
  | connect => exact .inr ⟨_, calls, rfl, h⟩
  | refuse =>
    obtain rfl : calls = [] := h
    exact .inr ⟨_, [], rfl, .nil⟩
  | prepare => exact UsesThenCloses.cons h rfl rfl
  -- a job that gives up still closes
  | failPrepare | fetch | failFetch => exact (UsesThenCloses.of_sublist h).cons rfl rfl
  | skipQuery | skipFetch => exact UsesThenCloses.of_sublist h
  | close connection | closeFailed connection =>
    obtain rfl : calls = [] := h
    exact List.Sublist.refl [Call.close connection]
  | _ => exact h

variable (database source places) in
/-- **The life of a job**: it calls nothing, or it asks for a connection, and calls nothing
else than this connection until it closes it. -/
theorem callsOf_start (queries : List String) (history : History) (i : Nat) (order : List Nat) :
    let calls := (start queries history).callsOf database source places i order
    calls = [] ∨ ∃ connection rest, calls = .connect connection :: rest ∧
      UsesThenCloses connection rest := by
  intro calls
  -- all that a job may call follows from its stage, and at first it waits
  rcases hjob : (start queries history).jobs[i]? with - | job
  · exact .inl (callsOf_of_none hjob order)
  · have hleads : job.stage.Leads calls :=
      callsOf_induction (fun _ => True) Stage.Leads (fun _ _ _ => trivial) Stage.leads_nil
        (fun _ _ _ _ hcalls => leads_moved hcalls) order trivial hjob
    obtain ⟨sql, -, rfl⟩ := List.mem_map.mp (List.mem_of_getElem? hjob)
    exact hleads

/-- A job has asked for what it calls. -/
theorem connect_mem_log {queries : List String} {history : History} {call : Call}
    (h : (i, call) ∈ (start queries history).log database source places order) :
    (i, .connect call.connection) ∈ (start queries history).log database source places order := by
  have hcalls := callsOf_start database source places queries history i order
  rw [← mem_callsOf] at h ⊢
  rcases hcalls with hnil | ⟨connection, rest, hcons, huses⟩
  · rw [hnil] at h
    cases h
  · rw [hcons] at h ⊢
    rcases List.mem_cons.mp h with rfl | h
    · exact List.mem_cons_self
    · rw [huses.connection_eq h]
      exact List.mem_cons_self

/-! ### No connection for two jobs -/

/-- What a job asks for comes next. -/
theorem eq_next_of_call? (h : fleet.call? source job = some (.connect connection)) :
    connection = .next source fleet.history := by
  rcases job with ⟨sql, stage⟩
  cases stage with
  | cleared =>
    cases h
    rfl
  | _ => cases h

/-- A turn adds to the number of connections that have been asked for. -/
theorem countP_opens_turn :
    (fleet.turn database source places i).history.countP (Call.opens source) =
      (fleet.jobs[i]?.bind (fleet.call? source)).toList.countP (Call.opens source) +
        fleet.history.countP (Call.opens source) := by
  rw [history_turn, List.countP_append]

/-- A connection that a job asks for is a new one, to where the connections of jobs lead. -/
theorem new_of_mem_log (h : (i, .connect connection) ∈ fleet.log database source places order) :
    connection.source = source ∧
      fleet.history.countP (Call.opens source) < connection.number := by
  -- the number is taken when the connection is asked for, and the history only grows
  induction order generalizing fleet with
  | nil => cases h
  | cons k order ih =>
    rcases mem_log_cons.mp h with ⟨rfl, hcall⟩ | h
    · obtain ⟨job, -, hjob⟩ := Option.bind_eq_some_iff.mp hcall
      rw [eq_next_of_call? hjob]
      exact ⟨rfl, Nat.lt_succ_self _⟩
    · obtain ⟨hsource, hnumber⟩ := ih h
      rw [countP_opens_turn] at hnumber
      exact ⟨hsource, Nat.lt_of_le_of_lt (Nat.le_add_left _ _) hnumber⟩

/-- What is asked for in a turn is not asked for again behind it. -/
theorem notMem_log_turn
    (h : fleet.jobs[i]?.bind (fleet.call? source) = some (.connect connection)) :
    (j, .connect connection) ∉
      (fleet.turn database source places i).log database source places order := by
  intro hlater
  obtain ⟨-, hnumber⟩ := new_of_mem_log hlater
  obtain ⟨job, -, hcall⟩ := Option.bind_eq_some_iff.mp h
  have hone : (some (Call.connect connection)).toList.countP (Call.opens source) = 1 := by
    simp [eq_next_of_call? hcall, Call.opens, Connection.next]
  have hnext : connection.number = fleet.history.countP (Call.opens source) + 1 := by
    rw [eq_next_of_call? hcall]
    rfl
  rw [countP_opens_turn, h, hone, hnext] at hnumber
  omega

/-- A connection is asked for once. -/
theorem eq_of_connect_mem_log
    (hi : (i, .connect connection) ∈ fleet.log database source places order)
    (hj : (j, .connect connection) ∈ fleet.log database source places order) : i = j := by
  induction order generalizing fleet with
  | nil => cases hi
  | cons k order ih =>
    rcases mem_log_cons.mp hi with ⟨rfl, hfirst⟩ | hi
    · rcases mem_log_cons.mp hj with ⟨rfl, -⟩ | hj
      · rfl
      · exact absurd hj (notMem_log_turn hfirst)
    · rcases mem_log_cons.mp hj with ⟨rfl, hsecond⟩ | hj
      · exact absurd hi (notMem_log_turn hsecond)
      · exact ih hi hj

/-- A job has one connection, and no two jobs have the same one. -/
theorem connection_eq_iff {queries : List String} {history : History} {first second : Call}
    (hi : (i, first) ∈ (start queries history).log database source places order)
    (hj : (j, second) ∈ (start queries history).log database source places order) :
    first.connection = second.connection ↔ i = j := by
  constructor
  · intro heq
    have hconnect := connect_mem_log hi
    rw [heq] at hconnect
    exact eq_of_connect_mem_log hconnect (connect_mem_log hj)
  · rintro rfl
    rw [← mem_callsOf] at hi hj
    rcases callsOf_start database source places queries history i order with
      hnil | ⟨connection, rest, hcons, huses⟩
    · rw [hnil] at hi
      cases hi
    · -- all calls of the job are about this connection
      have habout (call : Call) (hcall : call ∈ Call.connect connection :: rest) :
          call.connection = connection := by
        rcases List.mem_cons.mp hcall with rfl | hcall
        · rfl
        · exact huses.connection_eq hcall
      rw [hcons] at hi hj
      exact (habout first hi).trans (habout second hj).symm

/-- So the calls about a connection are those of the job that has asked for it. -/
theorem filter_connection_eq {queries : List String} {history : History}
    (h : (i, .connect connection) ∈ (start queries history).log database source places order) :
    (((start queries history).log database source places order).map (·.2)).filter
        (·.connection = connection) =
      (start queries history).callsOf database source places i order := by
  rw [List.filter_map, callsOf]
  congr 1
  apply List.filter_congr
  intro entry hentry
  have hiff := connection_eq_iff hentry h
  exact decide_eq_decide.mpr hiff

/-! ### Connections that are open -/

/-- The connection that a job opens in its turn. -/
def opening? (database : Database) (source : Source) (fleet : Fleet) (job : Job) :
    Option Connection :=
  (fleet.call? source job).bind (database.opened? fleet.history)

/-- The connection that a job closes in its turn. -/
def closing? (source : Source) (fleet : Fleet) (job : Job) : Option Connection :=
  (fleet.call? source job).bind Call.closed?

variable (database source places) in
theorem keepsBalance_connection :
    KeepsBalance database source places (·.stage.connection?) (closing? source)
      (opening? database source) fleet job := by
  rw [KeepsBalance]
  obtain ⟨stage, hmoved, hmoves⟩ := exists_moved database source places fleet job
  rcases job with ⟨sql, earlier⟩
  rw [hmoved]
  cases hmoves with
  | connect reply | refuse _ reply =>
    simp [Stage.connection?, closing?, opening?, call?, Call.closed?, Database.opened?, reply]
  | _ => exact .refl _

variable (database source places) in
/-- Every connection that has been opened is held by a job, or has been closed. -/
theorem perm_connections (fleet : Fleet) (order : List Nat) :
    ((fleet.turns database source places order).jobs.filterMap (·.stage.connection?) ++
        (fleet.calls database source places order).filterMap Call.closed?).Perm
      (fleet.jobs.filterMap (·.stage.connection?) ++
        database.opened fleet.history (fleet.calls database source places order)) := by
  have balance := perm_turns (·.stage.connection?) (closing? source) (opening? database source)
    order fleet fun done i rest _ job _ =>
      keepsBalance_connection database source places
  have hclosed : (along database source places (closing? source) fleet order).Perm
      ((fleet.calls database source places order).filterMap Call.closed?) := by
    rw [calls, List.filterMap_reverse]
    apply List.Perm.trans ?_ (List.reverse_perm _).symm
    exact .of_eq (along_bind fleet order (call? source) Call.closed?)
  have hopened : (along database source places (opening? database source) fleet order).Perm
      (database.opened fleet.history (fleet.calls database source places order)) := by
    rw [Database.opened, collect_calls]
    exact (List.reverse_perm _).symm
  exact ((hclosed.append_left _).symm.trans balance).trans (hopened.append_left _)

variable (database source places) in
/-- Jobs that have not begun have no connection, so that all connections are theirs. -/
theorem perm_connections_start (queries : List String) (history : History) (order : List Nat) :
    (((start queries history).turns database source places order).jobs.filterMap
          (·.stage.connection?) ++
        ((start queries history).calls database source places order).filterMap
          Call.closed?).Perm
      (database.opened history ((start queries history).calls database source places order)) := by
  have balance := perm_connections database source places (start queries history) order
  rwa [filterMap_start_eq_nil queries history fun _ => rfl, List.nil_append] at balance

theorem close_mem_of_closed {calls : List Call} (h : connection ∈ calls.filterMap Call.closed?) :
    .close connection ∈ calls := by
  obtain ⟨call, hcall, hclosed⟩ := List.mem_filterMap.mp h
  cases call with
  | close other =>
    cases hclosed
    exact hcall
  | _ => cases hclosed

/-- **At no moment are more connections open than there are places.** -/
theorem length_stillOpen_le (queries : List String) (history : History) (order : List Nat) :
    (database.stillOpen history
      ((start queries history).calls database source places order)).length ≤ places := by
  have balance := perm_connections_start database source places queries history order
  have hrunning := running_turns_start_le database source places queries history order
  generalize (start queries history).turns database source places order = fleet
    at balance hrunning
  generalize (start queries history).calls database source places order = calls at balance ⊢
  -- a connection that has been closed is not open any more
  have hclosed : (calls.filterMap Call.closed?).filter
      (fun connection => Call.close connection ∉ calls) = [] := by
    apply List.filter_eq_nil_iff.mpr
    intro connection hmem
    simp [close_mem_of_closed hmem]
  have hheld : (fleet.jobs.filterMap (·.stage.connection?)).length ≤ fleet.running := by
    rw [List.length_filterMap_eq_countP, running]
    apply List.countP_mono_left
    intro job _ hjob
    exact Stage.isRunning_of_connection? hjob
  calc (database.stillOpen history calls).length
      = (((fleet.jobs.filterMap (·.stage.connection?)) ++ calls.filterMap Call.closed?).filter
          (fun connection => Call.close connection ∉ calls)).length :=
        (balance.filter _).length_eq.symm
    _ = ((fleet.jobs.filterMap (·.stage.connection?)).filter
          (fun connection => Call.close connection ∉ calls)).length := by
        rw [List.filter_append, hclosed, List.append_nil]
    _ ≤ (fleet.jobs.filterMap (·.stage.connection?)).length := List.length_filter_le _ _
    _ ≤ fleet.running := hheld
    _ ≤ places := hrunning

/-- **What is opened is closed.**  When all jobs have come to their end, a connection that
has been opened has been closed once, and nothing has been called on it behind that. -/
theorem exists_filter_eq_of_opened {queries : List String} {history : History}
    (hdone : ((start queries history).turns database source places order).isDone)
    (h : connection ∈ database.opened history
      ((start queries history).calls database source places order)) :
    ∃ work, (((start queries history).log database source places order).map (·.2)).filter
        (·.connection = connection) = .connect connection :: work ++ [.close connection] ∧
      .close connection ∉ work := by
  have balance := perm_connections_start database source places queries history order
  rw [filterMap_of_isDone hdone fun _ => rfl, List.nil_append] at balance
  -- the job that has asked for the connection, and the one that has closed it
  have hconnect := Database.connect_mem_of_opened h
  have hclose := close_mem_of_closed (balance.mem_iff.mpr h)
  rw [calls_eq_log, List.mem_reverse, List.mem_map] at hconnect hclose
  obtain ⟨⟨i, _⟩, hopening, rfl⟩ := hconnect
  obtain ⟨⟨j, _⟩, hclosing, rfl⟩ := hclose
  obtain rfl : i = j := (connection_eq_iff hopening hclosing).mp rfl
  rw [filter_connection_eq hopening]
  rw [← mem_callsOf] at hopening hclosing
  rcases callsOf_start database source places queries history i order with
    hnil | ⟨other, rest, hcons, huses⟩
  · rw [hnil] at hopening
    cases hopening
  · rw [hcons] at hopening hclosing ⊢
    obtain rfl : connection = other := by
      rcases List.mem_cons.mp hopening with heq | hrest
      · cases heq
        rfl
      · exact huses.connection_eq hrest
    have hrest : Call.close connection ∈ rest := by
      rcases List.mem_cons.mp hclosing with heq | hrest
      · cases heq
      · exact hrest
    obtain ⟨work, rfl, hmissing⟩ := huses.exists_eq_append hrest
    exact ⟨work, rfl, hmissing⟩

end Fleet

/-! ### Requests -/

variable (engine : Engine) (session : Connection) (source : Source) (request : Request)

theorem makes_prepare (database : Database) (sql : String) :
    Talk.Makes (·.connection = session) (database.prepare session sql) :=
  .bind (.ask database rfl) fun _ => .pure _

theorem makes_validate :
    Talk.Makes (·.connection = session) (validate engine.database session request) := by
  rw [validate]
  rcases request.plan with rejection | plan
  · exact .throw _
  · apply Talk.Makes.bind (makes_prepare session engine.database plan.sampleSql)
    intro statement
    by_cases hcolumns : statement.columns.isEmpty
    · rw [if_pos hcolumns]
      exact .bind (.throw _) fun _ => .pure _
    · rw [if_neg hcolumns]
      exact .pure _

theorem makes_runSerial (queries : List String) :
    Talk.Makes (·.connection = session) (runSerial engine.database session queries) := by
  induction queries with
  | nil => exact .pure _
  | cons sql rest ih =>
    exact .bind (makes_prepare session engine.database sql) fun statement =>
      .bind (.ask engine.database rfl) fun _ => .bind ih fun _ => .pure _

theorem makes_runParallel (places : Nat) (queries : List String) :
    Talk.Makes (·.connection.source = source) (runParallel engine source places queries) := by
  intro history
  refine ⟨_, Fleet.history_turns (Fleet.start queries history) _, fun call hcall => ?_⟩
  rw [Fleet.calls_eq_log, List.mem_reverse, List.mem_map] at hcall
  obtain ⟨⟨i, call⟩, hentry, rfl⟩ := hcall
  exact (Fleet.new_of_mem_log (Fleet.connect_mem_log hentry)).1

/-- **A fan-out only calls** the connection with which it has been started, and connections
to the source that it has been given. -/
theorem makes_run :
    Talk.Makes (fun call => call.connection = session ∨ call.connection.source = source)
      (run engine session source request) := by
  apply Talk.Makes.bind ((makes_validate engine session request).mono fun _ => .inl)
  intro plan
  dsimp only
  by_cases hfew : request.workers < minWorkers
  · rw [if_pos hfew]
    have hserial := makes_runSerial engine session (plan.queries request.name)
    exact .bind (hserial.mono fun _ => .inl) fun _ => .pure _
  · rw [if_neg hfew]
    exact (makes_runParallel engine source _ _).mono fun _ => .inr

/-- So if the jobs connect to where the connection leads, all calls lead there. -/
theorem makes_run_of_source :
    Talk.Makes (·.connection.source = session.source)
      (run engine session session.source request) := by
  apply (makes_run engine session session.source request).mono
  rintro call (hconnection | hsource)
  · rw [hconnection]
  · exact hsource

/-- To check a request, a query is described on the connection of the notebook, and nothing
else is called. -/
theorem history_validate (earlier : History) :
    ((validate engine.database session request).run earlier).2 = earlier ∨
      ∃ sql, ((validate engine.database session request).run earlier).2 =
        .prepare session sql :: earlier := by
  rw [validate]
  rcases request.plan with rejection | plan
  · exact .inl rfl
  · refine .inr ⟨plan.sampleSql, ?_⟩
    rw [Talk.run_bind, Database.run_prepare]
    rcases engine.database.reply earlier (.prepare session plan.sampleSql) with error | columns
    · rfl
    · dsimp only [Except.map]
      by_cases hcolumns : columns.isEmpty
      · rw [if_pos hcolumns]
        rfl
      · rw [if_neg hcolumns]
        rfl

/-- **The connections of a fan-out are bounded, and they are always closed.**

A request that does not pass its checks opens none.  One that does is run by jobs.  At no
point of the run are more connections open than there are places; what two jobs call is
never about the same connection; and in the end, whatever has become of the fan-out, the
calls about each connection that has been opened begin with the one that has opened it and
end with the only one that closes it. -/
theorem run_closes_connections (hworkers : minWorkers ≤ request.workers) (earlier : History) :
    let places := min request.workers maxWorkers
    let validation := (validate engine.database session request).run earlier
    let outcome := (run engine session source request).run earlier
    (∀ error, validation.1 = .error error →
      outcome.2 = earlier ∨ ∃ sql, outcome.2 = .prepare session sql :: earlier) ∧
    ∀ plan, validation.1 = .ok plan →
      let queries := plan.queries request.name
      let fleet := Fleet.start queries validation.2
      let order := schedule engine queries.length
      let log := fleet.log engine.database source places order
      let calls := fleet.calls engine.database source places
      outcome.2 = (log.map (·.2)).reverse ++ validation.2 ∧
      (∀ done rest, order = done ++ rest →
        (engine.database.stillOpen validation.2 (calls done)).length ≤ places) ∧
      (∀ i j first second, (i, first) ∈ log → (j, second) ∈ log →
        first.connection = second.connection → i = j) ∧
      ∀ connection ∈ engine.database.opened validation.2 (calls order),
        ∃ work, (log.map (·.2)).filter (·.connection = connection) =
            .connect connection :: work ++ [.close connection] ∧
          .close connection ∉ work := by
  intro places validation outcome
  refine ⟨fun error herror => ?_, fun plan hplan => ?_⟩
  · have hrejected : outcome = (.error error, validation.2) :=
      run_of_rejected engine session source request (Prod.ext herror rfl)
    rw [hrejected]
    exact history_validate engine session request earlier
  · intro queries fleet order log calls
    have houtcome : outcome = (runParallel engine source places queries).run validation.2 :=
      run_of_validated engine session source request (Prod.ext hplan rfl) hworkers
    refine ⟨?_, fun done _ _ => ?_, fun i j first second hi hj => ?_, fun connection h => ?_⟩
    · rw [houtcome, ← Fleet.calls_eq_log]
      exact Fleet.history_turns fleet order
    · exact Fleet.length_stillOpen_le queries validation.2 done
    · exact (Fleet.connection_eq_iff hi hj).mp
    · have hdone := isDone_schedule engine source (places_pos hworkers) queries validation.2
      exact Fleet.exists_filter_eq_of_opened hdone h

/-- Both connections of two queries are closed, though the second query is lost. -/
theorem run_closes_connections_lostPair :
    let validated : History := [.prepare ⟨.given, 1⟩ "SELECT 1", .connect ⟨.given, 1⟩]
    let fleet := Fleet.start ["SELECT 1", "SELECT 2"] validated
    let log := fleet.log lostPair.database .given 2 (schedule lostPair 2)
    minWorkers ≤ pairRequest.workers ∧
      lostPair.database.opened validated
          (fleet.calls lostPair.database .given 2 (schedule lostPair 2)) =
        [⟨.given, 3⟩, ⟨.given, 2⟩] ∧
      ∀ connection ∈ [(⟨.given, 3⟩ : Connection), ⟨.given, 2⟩],
        ∃ work, (log.map (·.2)).filter (·.connection = connection) =
            .connect connection :: work ++ [.close connection] ∧
          .close connection ∉ work := by
  intro validated fleet log
  have hworkers : minWorkers ≤ pairRequest.workers := by decide
  have hopened : lostPair.database.opened validated
      (fleet.calls lostPair.database .given 2 (schedule lostPair 2)) =
        [⟨.given, 3⟩, ⟨.given, 2⟩] := by
    decide +kernel
  obtain ⟨-, hvalidated⟩ := run_closes_connections lostPair ⟨.given, 1⟩ .given pairRequest
    hworkers [.connect ⟨.given, 1⟩]
  obtain ⟨-, -, -, hclosed⟩ := hvalidated ⟨"SELECT :n", [.integer 1, .integer 2], "SELECT 1"⟩ rfl
  refine ⟨hworkers, hopened, fun connection hconnection => hclosed connection ?_⟩
  exact hopened ▸ hconnection

end FanOut

end SqlNotebook
