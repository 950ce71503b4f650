/-
SqlNotebook/Proofs/FanOut/Agreement.lean

With a database that answers a query by its text alone, it makes no difference
for the rows of a fan-out whether its queries run one after the other on one
connection, or as jobs on connections of their own.  Both succeed exactly if the
database has a table for every query:

    serial succeeds  ↔  ∀ sql ∈ queries, answers.table sql is a table  ↔  parallel succeeds

The tables are then the same ones; with jobs they stand in the order in which the
jobs have come to their end.
-/
import SqlNotebook.Proofs.FanOut.Outcome

namespace SqlNotebook

/-- What a database answers to the text of a query: its columns, and its rows. -/
structure Answers where
  columns : String → Except Error (List Column)
  rows : String → Except Error ResultTable

/-- The table for a query that is described and then run. -/
def Answers.table (answers : Answers) (sql : String) : Except Error ResultTable :=
  (answers.columns sql).bind fun _ => answers.rows sql

/-- A database that answers by the text of a query alone, and never refuses a
connection.  The statements that it runs are those that it has described. -/
structure Database.Stateless (database : Database) (answers : Answers) : Prop where
  connect : ∀ history connection, database.reply history (.connect connection) = .ok ()
  prepare : ∀ history connection sql,
    database.reply history (.prepare connection sql) = answers.columns sql
  fetch : ∀ history connection statement, answers.columns statement.sql = .ok statement.columns →
    database.reply history (.fetch connection statement) = answers.rows statement.sql

/-- What a script answers to the text of a query. -/
def Script.answers (script : Script) : Answers where
  columns sql := script.reply (.prepare ⟨.given, 0⟩ sql)
  rows sql := script.reply (.fetch ⟨.given, 0⟩ ⟨sql, script.columns sql⟩)

/-- A script that refuses no connection answers by the text of a query alone. -/
theorem Script.stateless (script : Script) (h : script.refused = [])
    (order : (jobs : Nat) → List Nat) :
    (script.engine order).database.Stateless script.answers where
  connect _ connection := by simp [Script.engine, Script.reply, h]
  prepare _ _ _ := rfl
  fetch _ _ statement hcolumns := by
    -- a statement that is described has the columns of its text
    have hstatement : statement.columns = script.columns statement.sql := by
      rcases hcheck : script.check .prepare statement.sql with error | ⟨⟩
      · simp [answers, Script.reply, hcheck, bind, Except.bind] at hcolumns
      · simpa [answers, Script.reply, hcheck, bind, Except.bind, pure, Except.pure] using
          hcolumns.symm
    simp only [engine, answers, Script.reply, hstatement]

namespace FanOut

variable {database : Database} {answers : Answers}

/-! ### One after the other -/

/-- The first of several queries is answered by its text; the others follow. -/
theorem run_runSerial_cons (stateless : database.Stateless answers) (session : Connection)
    (sql : String) (rest : List String) (history : History) :
    ∃ later, ((runSerial database session (sql :: rest)).run history).1 =
      (answers.table sql).bind fun table =>
        ((runSerial database session rest).run later).1.map (table :: ·) := by
  rw [runSerial, Talk.run_bind, Database.run_prepare, stateless.prepare]
  rcases hcolumns : answers.columns sql with error | columns
  · exact ⟨history, by rw [Answers.table, hcolumns]; rfl⟩
  · have hfetch : (database.fetch session ⟨sql, columns⟩).run (.prepare session sql :: history) =
        (answers.rows sql, .fetch session ⟨sql, columns⟩ :: .prepare session sql :: history) :=
      Prod.ext (stateless.fetch _ session ⟨sql, columns⟩ hcolumns) rfl
    refine ⟨.fetch session ⟨sql, columns⟩ :: .prepare session sql :: history, ?_⟩
    simp only [Except.map]
    rw [Talk.run_bind, hfetch, Answers.table, hcolumns]
    rcases answers.rows sql with error | table
    · rfl
    · simp only [Talk.run_bind]
      rcases (runSerial database session rest).run _ with ⟨error | tables, later⟩ <;> rfl

/-- Queries that run one after the other bring the tables that the database has
for them. -/
theorem runSerial_eq_ok_iff (stateless : database.Stateless answers) (session : Connection)
    (queries : List String) (history : History) (tables : List ResultTable) :
    ((runSerial database session queries).run history).1 = .ok tables ↔
      queries.map answers.table = tables.map .ok := by
  induction queries generalizing history tables with
  | nil =>
    rw [runSerial, Talk.run_pure]
    cases tables <;> simp
  | cons sql rest ih =>
    obtain ⟨later, hlater⟩ := run_runSerial_cons stateless session sql rest history
    rw [hlater, List.map_cons]
    rcases answers.table sql with error | table
    · cases tables <;> simp [Except.bind]
    · have ih := ih later
      generalize ((runSerial database session rest).run later).1 = outcome at ih ⊢
      rcases outcome with error | others
      · cases tables with
        | nil => simp [Except.bind, Except.map]
        | cons first tables =>
          have hnot : rest.map answers.table ≠ tables.map .ok := fun h => nomatch (ih tables).mpr h
          simp [Except.bind, Except.map, hnot]
      · cases tables with
        | nil => simp [Except.bind, Except.map]
        | cons first tables => simp [Except.bind, Except.map, ← ih]

/-! ### As jobs -/

namespace Fleet

variable {source : Source} {places : Nat} {order : List Nat}
variable {queries : List String} {history : History} {job : Job}

/-- A job runs one of the queries. -/
theorem sql_mem_of_turns
    (h : job ∈ ((start queries history).turns database source places order).jobs) :
    job.sql ∈ queries := by
  have hmem : job.sql ∈ _ := List.mem_map.mpr ⟨job, h, rfl⟩
  rw [map_sql_turns, start, List.map_map] at hmem
  simpa using hmem

/-- The columns of a statement that has been described are those of its text. -/
theorem columns_of_described (stateless : database.Stateless answers) {statement : Prepared}
    (h : database.Describes statement) :
    answers.columns statement.sql = .ok statement.columns := by
  obtain ⟨before, connection, hreply⟩ := h
  rwa [stateless.prepare] at hreply

/-- If the database has a table for every query, no call of a job fails. -/
theorem failures_eq_nil (stateless : database.Stateless answers)
    (h : ∀ sql ∈ queries, ∃ table, answers.table sql = .ok table) :
    database.failures history
      ((start queries history).calls database source places order) = [] := by
  change Database.collect _ (start queries history).history _ = []
  rw [collect_calls, List.reverse_eq_nil_iff]
  refine List.eq_nil_iff_forall_not_mem.mpr fun error hmem => ?_
  obtain ⟨done, rest, rfl, job, hjob, hfailing⟩ := exists_of_mem_along _ _ hmem
  obtain ⟨table, htable⟩ := h job.sql (sql_mem_of_turns hjob)
  have hdescribed := (described_start database queries history).turns job hjob
  rcases job with ⟨sql, stage⟩
  -- of the calls that can fail, none does
  cases stage with
  | cleared => simp [call?, Database.failure?, stateless.connect] at hfailing
  | issued connection =>
    rcases hcolumns : answers.columns sql with error | columns
    · simp [Answers.table, hcolumns, Except.bind] at htable
    · simp [call?, Database.failure?, stateless.prepare, hcolumns] at hfailing
  | ready connection statement =>
    obtain ⟨rfl, hdescribes⟩ := hdescribed
    have hcolumns := columns_of_described stateless hdescribes
    have hrows : answers.rows statement.sql = .ok table := by
      rwa [Answers.table, hcolumns] at htable
    simp [call?, Database.failure?, stateless.fetch _ _ _ hcolumns, hrows] at hfailing
  | closing => simp [call?, Database.failure?] at hfailing
  | _ => simp [call?] at hfailing

/-- What is fetched is the table that the database has for the query. -/
theorem table_of_fetched (stateless : database.Stateless answers) {sql : String}
    {table : ResultTable}
    (h : (sql, table) ∈ database.fetches history
      ((start queries history).calls database source places order)) :
    answers.table sql = .ok table := by
  change _ ∈ Database.collect _ (start queries history).history _ at h
  rw [collect_calls, List.mem_reverse] at h
  obtain ⟨done, rest, rfl, job, hjob, hfetching⟩ := exists_of_mem_along _ _ h
  have hdescribed := (described_start database queries history).turns job hjob
  rcases job with ⟨sql, stage⟩
  cases stage with
  | ready connection statement =>
    obtain ⟨rfl, hdescribes⟩ := hdescribed
    have hcolumns := columns_of_described stateless hdescribes
    rcases hrows : answers.rows statement.sql with error | other
    · simp [call?, Database.fetched?, stateless.fetch _ _ _ hcolumns, hrows] at hfetching
    · simp [call?, Database.fetched?, stateless.fetch _ _ _ hcolumns, hrows] at hfetching
      obtain ⟨rfl, rfl⟩ := hfetching
      rw [Answers.table, hcolumns]
      exact hrows
  | cleared => simp [call?, Database.fetched?] at hfetching
  | issued => simp [call?, Database.fetched?] at hfetching
  | closing => simp [call?, Database.fetched?] at hfetching
  | _ => simp [call?] at hfetching

end Fleet

/-! ### Both ways -/

/-- The database has tables for all queries. -/
theorem exists_tables_iff (queries : List String) :
    (∃ tables : List ResultTable, queries.map answers.table = tables.map .ok) ↔
      ∀ sql ∈ queries, ∃ table, answers.table sql = .ok table := by
  induction queries with
  | nil => exact ⟨fun _ => nofun, fun _ => ⟨[], rfl⟩⟩
  | cons sql rest ih =>
    rw [List.forall_mem_cons, ← ih]
    refine ⟨?_, ?_⟩
    · rintro ⟨- | ⟨table, tables⟩, h⟩
      · cases h
      · obtain ⟨hfirst, hrest⟩ := List.cons.inj h
        exact ⟨⟨table, hfirst⟩, ⟨tables, hrest⟩⟩
    · rintro ⟨⟨table, hfirst⟩, ⟨tables, hrest⟩⟩
      exact ⟨table :: tables, by rw [List.map_cons, List.map_cons, hfirst, hrest]⟩

/-- Tables that belong to the same queries are the same tables. -/
theorem perm_tables {parts : List (String × ResultTable)} {queries : List String}
    {tables : List ResultTable} (hqueries : (parts.map (·.1)).Perm queries)
    (hparts : ∀ part ∈ parts, answers.table part.1 = .ok part.2)
    (htables : queries.map answers.table = tables.map .ok) : (parts.map (·.2)).Perm tables := by
  -- through `answers.table` the parts and the queries come to the same results
  have houtcomes : (parts.map (·.1)).map answers.table = (parts.map (·.2)).map .ok := by
    rw [List.map_map, List.map_map]
    exact List.map_congr_left hparts
  have hperm := hqueries.map answers.table
  rw [houtcomes, htables] at hperm
  have hvalues := hperm.filterMap fun outcome => outcome.toOption
  have hok (values : List ResultTable) :
      (values.map (.ok : ResultTable → Except Error ResultTable)).filterMap
        (fun outcome => outcome.toOption) = values := by
    rw [List.filterMap_map]
    exact List.filterMap_some
  rwa [hok, hok] at hvalues

/-- Two reports bring the same tables: the first one `tables` in their order, the
second one in any order. -/
structure Report.Agrees (first second : Report) (tables : List ResultTable) : Prop where
  tables : ∃ others : List ResultTable, others.Perm tables ∧
    first.table.rows = tables.flatMap (·.rows) ∧ second.table.rows = others.flatMap (·.rows)
  rows : first.table.rows.Perm second.table.rows
  firstIndex : first.table.index = List.range first.table.rows.length
  secondIndex : second.table.index = List.range second.table.rows.length
  partitions : first.partitions = second.partitions
  issued : first.issued.Perm second.issued

section Jobs

variable (engine : Engine) (source : Source) {places : Nat} {queries : List String}
variable (history : History)

/-- Jobs succeed exactly if the database has a table for every query. -/
theorem runParallel_succeeds_iff (stateless : engine.database.Stateless answers)
    (hplaces : 0 < places) :
    (∃ report, ((runParallel engine source places queries).run history).1 = .ok report) ↔
      ∀ sql ∈ queries, ∃ table, answers.table sql = .ok table := by
  have hdone := isDone_schedule engine source hplaces queries history
  refine ⟨?_, ?_⟩
  · rintro ⟨report, hreport⟩ sql hsql
    by_cases hfailures : engine.database.failures history
      ((Fleet.start queries history).calls engine.database source places
        (schedule engine queries.length)) = []
    · obtain ⟨_, -, hgathers⟩ := Fleet.result_of_succeeds hdone hfailures
      obtain ⟨parts, hfetched, hqueries, -⟩ := hgathers.rows
      obtain ⟨⟨_, table⟩, hpart, rfl⟩ := List.mem_map.mp (hqueries.mem_iff.mpr hsql)
      exact ⟨table, Fleet.table_of_fetched stateless (hfetched.mem_iff.mp hpart)⟩
    · obtain ⟨error, _, -, herror⟩ := Fleet.result_of_fails hdone hfailures
      exact nomatch herror.symm.trans hreport
  · intro h
    obtain ⟨report, hreport, -⟩ :=
      Fleet.result_of_succeeds hdone (Fleet.failures_eq_nil stateless h)
    exact ⟨report, hreport⟩

/-- Jobs that succeed bring the same tables as the queries one after the other. -/
theorem merge_agrees (stateless : engine.database.Stateless answers) (hplaces : 0 < places)
    {tables : List ResultTable} (htables : queries.map answers.table = tables.map .ok)
    {report : Report}
    (hreport : ((runParallel engine source places queries).run history).1 = .ok report) :
    (merge tables queries).Agrees report tables := by
  have hdone := isDone_schedule engine source hplaces queries history
  have hgood := (exists_tables_iff queries).mp ⟨tables, htables⟩
  obtain ⟨other, hother, hgathers⟩ :=
    Fleet.result_of_succeeds hdone (Fleet.failures_eq_nil stateless hgood)
  obtain rfl : report = other := Except.ok.inj (hreport.symm.trans hother)
  obtain ⟨parts, hfetched, hqueries, hrows⟩ := hgathers.rows
  have hothers : (parts.map (·.2)).Perm tables := by
    apply perm_tables hqueries _ htables
    intro part hpart
    exact Fleet.table_of_fetched stateless (hfetched.mem_iff.mp hpart)
  have hsecond : report.table.rows = (parts.map (·.2)).flatMap (·.rows) := by
    rw [hrows, List.flatMap_map]
  have hfirst : (merge tables queries).table.rows = tables.flatMap (·.rows) :=
    ResultTable.rows_concat tables
  exact {
    tables := ⟨_, hothers, hfirst, hsecond⟩
    rows := by
      rw [hfirst, hsecond]
      exact (hothers.flatMap_right _).symm
    firstIndex := rfl
    secondIndex := hgathers.index
    partitions := hgathers.partitions.symm
    issued := hgathers.issued.symm }

end Jobs

/-- The checks of a request do not depend on the connection, or on what has been
before. -/
theorem validate_stateless (stateless : database.Stateless answers)
    (session session' : Connection) (request : Request) (earlier earlier' : History) :
    ((validate database session request).run earlier).1 =
      ((validate database session' request).run earlier').1 := by
  rw [validate, validate]
  rcases request.plan with rejection | plan
  · rfl
  · simp only [Talk.run_bind, Database.run_prepare, stateless.prepare]
    rcases answers.columns plan.sampleSql with error | columns
    · rfl
    · rcases columns <;> rfl

/-- What passes the checks is the plan of the request. -/
theorem plan_of_validate {session : Connection} {request : Request} {plan : Plan}
    {earlier later : History}
    (h : (validate database session request).run earlier = (.ok plan, later)) :
    request.plan = .ok plan := by
  rw [validate] at h
  rcases hplan : request.plan with rejection | other
  all_goals rw [hplan] at h
  · cases h
  · simp only [Talk.run_bind, Database.run_prepare] at h
    rcases hreply : database.reply earlier (.prepare session other.sampleSql) with error | columns
    all_goals rw [hreply] at h
    · cases h
    · rcases columns with - | ⟨column, columns⟩
      · cases h
      · have hok : (.ok other : Except Error Plan) = .ok plan := congrArg Prod.fst h
        rw [Except.ok.inj hok]

/-- A request that passes its checks with too few workers is run on one connection. -/
theorem run_eq_ok_iff_of_few (engine : Engine) (stateless : engine.database.Stateless answers)
    (session : Connection) (source : Source) (request : Request) {plan : Plan}
    {earlier validated : History}
    (hvalid : (validate engine.database session request).run earlier = (.ok plan, validated))
    (hworkers : request.workers < minWorkers) (report : Report) :
    ((run engine session source request).run earlier).1 = .ok report ↔
      ∃ tables : List ResultTable,
        (plan.queries request.name).map answers.table = tables.map .ok ∧
          report = merge tables (plan.queries request.name) := by
  have hserial := runSerial_eq_ok_iff stateless session (plan.queries request.name) validated
  rw [run, Talk.run_bind, hvalid]
  simp only
  rw [if_pos hworkers, Talk.run_bind]
  generalize (runSerial engine.database session (plan.queries request.name)).run validated =
    outcome at hserial ⊢
  rcases outcome with ⟨error | tables, later⟩
  · refine ⟨?_, ?_⟩
    · intro h
      cases h
    · rintro ⟨tables, htables, -⟩
      have hok := (hserial tables).mpr htables
      cases hok
  · refine ⟨?_, ?_⟩
    · intro h
      exact ⟨tables, (hserial tables).mp rfl, (Except.ok.inj h).symm⟩
    · rintro ⟨others, htables, rfl⟩
      obtain rfl := Except.ok.inj ((hserial others).mpr htables)
      rfl

/-- One after the other, it succeeds exactly if the database has a table for every query. -/
theorem run_succeeds_iff_of_few (engine : Engine) (stateless : engine.database.Stateless answers)
    (session : Connection) (source : Source) (request : Request) {plan : Plan}
    {earlier validated : History}
    (hvalid : (validate engine.database session request).run earlier = (.ok plan, validated))
    (hworkers : request.workers < minWorkers) :
    (∃ report, ((run engine session source request).run earlier).1 = .ok report) ↔
      ∀ sql ∈ plan.queries request.name, ∃ table, answers.table sql = .ok table := by
  have hreports := run_eq_ok_iff_of_few engine stateless session source request hvalid hworkers
  rw [← exists_tables_iff]
  constructor
  · rintro ⟨report, hreport⟩
    obtain ⟨tables, htables, -⟩ := (hreports report).mp hreport
    exact ⟨tables, htables⟩
  · rintro ⟨tables, htables⟩
    exact ⟨_, (hreports _).mpr ⟨tables, htables, rfl⟩⟩

/-- **Queries that run one after the other and queries that run as jobs agree**, if the
database answers by the text of a query alone.  Both ways reject the same requests with
the same error, and both succeed or neither does.

A request that passes its checks has a list for a value, and is run once for every item
of the list.  It succeeds exactly if the database has a table for every item.  Then both
ways bring these tables, one after the other in the order of the list, and as jobs in
any order. -/
theorem run_agrees (engine : Engine) (stateless : engine.database.Stateless answers)
    (session session' : Connection) (source source' : Source) (request : Request)
    {few many : Nat} (hfew : few < minWorkers) (hmany : minWorkers ≤ many)
    (earlier earlier' : History) :
    let validated := ((validate engine.database session request).run earlier).1
    let serial := ((run engine session source { request with workers := few }).run earlier).1
    let parallel :=
      ((run engine session' source' { request with workers := many }).run earlier').1
    (∀ error, validated = .error error → serial = .error error ∧ parallel = .error error) ∧
      ((∃ report, serial = .ok report) ↔ ∃ report, parallel = .ok report) ∧
      (∀ plan, validated = .ok plan →
        body request.sql request.name = .ok plan.template ∧ request.value = .list plan.items ∧
          ((∃ report, serial = .ok report) ↔ ∀ item ∈ plan.items, ∃ table,
            answers.table (itemSql plan.template request.name item) = .ok table)) ∧
      ∀ first second, serial = .ok first → parallel = .ok second →
        ∃ plan tables, validated = .ok plan ∧
          plan.items.map (fun item =>
            answers.table (itemSql plan.template request.name item)) = tables.map .ok ∧
          first.partitions = plan.items.length ∧
          first.issued = plan.items.map (itemSql plan.template request.name) ∧
          first.Agrees second tables := by
  intro validated serial parallel
  have hsame : ((validate engine.database session' request).run earlier').1 = validated :=
    validate_stateless stateless session' session request earlier' earlier
  rcases hvalid : (validate engine.database session request).run earlier with ⟨error | plan, later⟩
  · -- the request is rejected
    have hvalidated : validated = .error error := congrArg Prod.fst hvalid
    have hserial : serial = .error error := congrArg Prod.fst
      (run_of_rejected engine session source { request with workers := few } hvalid)
    have hparallel : parallel = .error error := congrArg Prod.fst
      (run_of_rejected engine session' source' { request with workers := many }
        (Prod.ext (hsame.trans hvalidated) rfl))
    rw [hvalidated, hserial, hparallel]
    refine ⟨?_, ⟨nofun, nofun⟩, nofun, nofun⟩
    rintro _ ⟨⟩
    exact ⟨rfl, rfl⟩
  · -- the request passes its checks
    have hvalidated : validated = .ok plan := congrArg Prod.fst hvalid
    have hplaces := places_pos hmany
    obtain ⟨later', hvalid'⟩ : ∃ later',
        (validate engine.database session' request).run earlier' = (.ok plan, later') :=
      ⟨_, Prod.ext (hsame.trans hvalidated) rfl⟩
    have hserial : ∀ report, serial = .ok report ↔ _ := run_eq_ok_iff_of_few engine stateless
      session source { request with workers := few } hvalid hfew
    have hsucceeds : (∃ report, serial = .ok report) ↔ _ := run_succeeds_iff_of_few engine
      stateless session source { request with workers := few } hvalid hfew
    have hparallel : parallel =
        ((runParallel engine source' (min many maxWorkers)
          (plan.queries request.name)).run later').1 := congrArg Prod.fst
      (run_of_validated engine session' source' { request with workers := many } hvalid' hmany)
    obtain ⟨hbody, hvalue⟩ := Request.plan_eq_ok (plan_of_validate hvalid)
    rw [hvalidated]
    refine ⟨nofun, ?_, ?_, ?_⟩
    · rw [hsucceeds, hparallel,
        runParallel_succeeds_iff engine source' later' stateless hplaces]
    · rintro _ ⟨⟩
      rw [hsucceeds, Plan.queries, List.forall_mem_map]
      exact ⟨hbody, hvalue, Iff.rfl⟩
    · intro first second hfirst hsecond
      obtain ⟨tables, htables, rfl⟩ := (hserial first).mp hfirst
      rw [hparallel] at hsecond
      refine ⟨plan, tables, rfl, ?_, List.length_map _, rfl,
        merge_agrees engine source' later' stateless hplaces htables hsecond⟩
      rwa [Plan.queries, List.map_map] at htables

/-- An engine that brings every query back as its own row, and ends the second job first. -/
def echo : Engine :=
  Script.engine {} fun _ => [0, 1, 0, 1] ++ List.replicate 9 1

/-- Two queries, one after the other and as jobs. -/
theorem run_echo :
    let serial := ((run echo ⟨.given, 1⟩ .given { pairRequest with workers := 1 }).run []).1
    let parallel := ((run echo ⟨.given, 1⟩ .given { pairRequest with workers := 2 }).run []).1
    let columns : List Column := [⟨"SQL", "VARCHAR"⟩]
    let first : Report := ⟨⟨columns, [[.text "SELECT 1"], [.text "SELECT 2"]], [0, 1]⟩,
      2, ["SELECT 1", "SELECT 2"]⟩
    let second : Report := ⟨⟨columns, [[.text "SELECT 2"], [.text "SELECT 1"]], [0, 1]⟩,
      2, ["SELECT 2", "SELECT 1"]⟩
    echo.database.Stateless (Script.answers {}) ∧ 1 < minWorkers ∧ minWorkers ≤ 2 ∧
      serial = .ok first ∧ parallel = .ok second ∧
      first.Agrees second
        [⟨columns, [[.text "SELECT 1"]], [0]⟩, ⟨columns, [[.text "SELECT 2"]], [0]⟩] := by
  intro serial parallel columns first second
  have stateless : echo.database.Stateless (Script.answers {}) := Script.stateless {} rfl _
  obtain ⟨-, hsucceeds, -, hagrees⟩ := run_agrees echo stateless ⟨.given, 1⟩ ⟨.given, 1⟩ .given
    .given pairRequest (show 1 < minWorkers by decide) (show minWorkers ≤ 2 by decide) [] []
  have hserial : serial = .ok first := rfl
  obtain ⟨other, hparallel⟩ := hsucceeds.mp ⟨first, hserial⟩
  have hother : parallel.toOption = some second := by decide +kernel
  rw [show parallel = .ok other from hparallel] at hother
  obtain rfl := Option.some.inj hother
  obtain ⟨plan, tables, hplan, htables, -, -, hboth⟩ := hagrees first _ hserial hparallel
  obtain rfl : (⟨"SELECT :n", [.integer 1, .integer 2], "SELECT 1"⟩ : Plan) = plan :=
    Except.ok.inj hplan
  obtain rfl : [⟨columns, [[.text "SELECT 1"]], [0]⟩, ⟨columns, [[.text "SELECT 2"]], [0]⟩] =
      tables :=
    (List.map_inj_right fun _ _ => Except.ok.inj).mp htables
  exact ⟨stateless, by decide, by decide, hserial, hparallel, hboth⟩

end FanOut

end SqlNotebook
