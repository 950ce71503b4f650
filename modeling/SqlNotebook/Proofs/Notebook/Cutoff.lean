/-
SqlNotebook/Proofs/Notebook/Cutoff.lean

Which statements of a cell are sent.  Reading a statement expands it, takes its flags
off and binds it; that needs no database, so what is due to be sent is known before
anything is:

    due read flags statements  =  what would be sent, and the error at which that ends

A cell sends a first part of what is due.  It ends behind the first answer whose rows are
shown, and otherwise where a statement cannot be read, or behind the last statement.
`CellRun` is the relation between what is due, what has been sent and answered, and the
outcome; `cellRun_runStatements` says that a run keeps to it, one statement at a time,
and the lemmas about the relation say where it cuts.
-/
import Mathlib.Algebra.GroupWithZero.Nat
import SqlNotebook.Proofs.Notebook.Status

namespace SqlNotebook

/-- Only the body of a macro can be at fault for an expansion that fails. -/
theorem MacroTable.structural_of_expand {table : MacroTable} {instruction : String} {error : Error}
    (hexpand : table.expand instruction = .error error) :
    ∃ message, error = .structural message instruction := by
  rw [expand] at hexpand
  split at hexpand
  · cases hexpand
  · dsimp only at hexpand
    generalize Macro.State.run _ _ = ran at hexpand
    rcases ran with fault | expansion
    · exact ⟨fault.message, (Except.error.inj hexpand).symm⟩
    · cases hexpand

/-! ### What is due -/

/-- What a statement comes to before anything is sent. -/
structure Reading where
  /-- The flags that it has brought. -/
  flags : List String := []
  /-- The SQL to send, if there is any. -/
  sql : Option String := none

/-- A statement that is to be sent, with the flags that are set by then. -/
structure Sending where
  sql : String
  flags : List String
deriving DecidableEq, Repr

namespace Notebook

/-- Reads a statement.  One whose macro exits and one that comes to nothing but blanks
have nothing to send. -/
def read (notebook : Notebook) (statement : String) : Except Error Reading :=
  (notebook.macros.expand statement).map fun expansion =>
    if expansion.exited then {}
    else
      let sql := notebook.environment.bind (Flags.split expansion.text).1
      { flags := (Flags.split expansion.text).2
        sql := if Text.isBlank sql then none else some sql }

/-- What statements have to send, up to the first one that cannot be read, and the error
there. -/
def due (read : String → Except Error Reading) :
    (flags : List String) → List String → List Sending × Option Error
  | _, [] => ([], none)
  | flags, statement :: rest =>
    match read statement with
    | .error error => ([], some error)
    | .ok reading =>
      let later := due read (flags ++ reading.flags) rest
      (reading.sql.toList.map (⟨·, flags ++ reading.flags⟩) ++ later.1, later.2)

/-- What the statements of a cell have to send. -/
def dueCell (notebook : Notebook) (sql : String) : List Sending × Option Error :=
  due notebook.read notebook.flags
    (Statement.split sql (if notebook.has .delimiter then '@' else ';'))

/-- What cannot be read is a broken macro. -/
theorem structural_of_read {notebook : Notebook} {statement : String} {error : Error}
    (hread : notebook.read statement = .error error) :
    ∃ message, error = .structural message statement := by
  rw [read] at hread
  rcases hexpand : notebook.macros.expand statement with broken | expansion
  · rw [hexpand] at hread
    obtain rfl : broken = error := Except.error.inj hread
    exact MacroTable.structural_of_expand hexpand
  · rw [hexpand] at hread
    cases hread

theorem structural_of_due {notebook : Notebook} {flags : List String} {statements : List String}
    {error : Error} (hdue : (due notebook.read flags statements).2 = some error) :
    ∃ message statement, error = .structural message statement := by
  induction statements generalizing flags with
  | nil => cases hdue
  | cons statement rest ih =>
    rw [due] at hdue
    rcases hread : notebook.read statement with other | reading
    · rw [hread] at hdue
      obtain ⟨message, hmessage⟩ := structural_of_read hread
      cases hdue
      exact ⟨message, statement, hmessage⟩
    · rw [hread] at hdue
      exact ih hdue

theorem structural_of_dueCell {notebook : Notebook} {sql : String} {error : Error}
    (hdue : (notebook.dueCell sql).2 = some error) :
    ∃ message statement, error = .structural message statement := by
  rw [dueCell] at hdue
  exact structural_of_due hdue

end Notebook

/-! ### What comes of it -/

namespace Answer

/-- Whether a cell ends behind an answer, given the flags that are set by then: it does if
rows have come, and if an answer set is to be shown in a form that has room for none. -/
def ends (flags : List String) : Except Error Answer → Bool
  | .ok (.rows table) =>
    !table.isEmpty || flags.any ["-j", "-json", "-r", "-array"].contains
  | _ => false

/-- The number of rows that a statement has changed. -/
def count : Except Error Answer → Nat
  | .ok (.changed count) => count.toNat
  | _ => 0

/-- The number of changed rows and the outcome of a cell behind an answer. -/
def tally : UInt64 × Outcome → Except Error Answer → UInt64 × Outcome
  | (affected, _), .ok (.changed count) => (affected + count, .completed (affected + count))
  | (affected, _), .ok (.rows _) => (affected, .noRows)
  | (affected, _), .error _ => (affected, .completed affected)

end Answer

/-- A statement that has been sent, and its answer. -/
abbrev Exchange := Sending × Except Error Answer

/-- Whether a cell ends with a statement and its answer. -/
def Exchange.ends (exchange : Exchange) : Bool :=
  Answer.ends exchange.1.flags exchange.2

/-- A run of a cell: what is due, what has been changed and the outcome so far, what is
sent and answered, and the result. -/
inductive CellRun (notebook : Notebook) :
    List Sending × Option Error → UInt64 × Outcome → List Exchange →
      Except Error Response → Prop
  /-- Nothing is left. -/
  | finished {tally : UInt64 × Outcome} {response : Response} :
      response.outcome = tally.2 → CellRun notebook ([], none) tally [] (.ok response)
  /-- What comes next cannot be read. -/
  | broken {tally : UInt64 × Outcome} (error : Error) :
      CellRun notebook ([], some error) tally [] (.error error)
  /-- The rows of a statement are shown. -/
  | shown {sending : Sending} {rest : List Sending} {error : Option Error}
      {tally : UInt64 × Outcome} {table : ResultTable} {response : Response} :
      Answer.ends sending.flags (.ok (.rows table)) →
      response.outcome = (({ notebook with flags := sending.flags } : Notebook).shown table).outcome →
      CellRun notebook (sending :: rest, error) tally [(sending, .ok (.rows table))] (.ok response)
  /-- The cell goes on behind a statement. -/
  | next {sending : Sending} {rest : List Sending} {error : Option Error}
      {tally : UInt64 × Outcome} {answer : Except Error Answer} {exchanges : List Exchange}
      {result : Except Error Response} :
      ¬ Answer.ends sending.flags answer →
      CellRun notebook (rest, error) (Answer.tally tally answer) exchanges result →
      CellRun notebook (sending :: rest, error) tally ((sending, answer) :: exchanges) result

/-- A run needs nothing of a notebook that its statements change. -/
theorem CellRun.of_moment {notebook : Notebook} {flags : List String} {status : Status} {history : History}
    {due : List Sending × Option Error} {tally : UInt64 × Outcome} {exchanges : List Exchange}
    {result : Except Error Response}
    (h : CellRun { notebook with flags, status, history } due tally exchanges result) :
    CellRun notebook due tally exchanges result := by
  induction h with
  | finished houtcome => exact .finished houtcome
  | broken error => exact .broken error
  | shown hends houtcome => exact .shown hends houtcome
  | next hends _ ih => exact .next hends ih

/-! ### What has been sent -/

/-- Calls have come on top of the history, all about one connection: the statements of the
exchanges have been sent in order, and they have had their answers. -/
structure Notebook.Exchanged (database : Database) (session : Connection) (calls : List Call)
    (exchanges : List Exchange) (before after : Notebook) : Prop where
  history : after.history = calls ++ before.history
  connection : ∀ call ∈ calls, call.connection = session
  prepared : calls.filterMap Call.prepared? = (exchanges.map (·.1.sql)).reverse
  answers : database.answers before.history calls = (exchanges.map Prod.snd).reverse

namespace Notebook.Exchanged

variable {database : Database} {session : Connection} {a b c : Notebook}

theorem of_history_eq (h : b.history = a.history) : Exchanged database session [] [] a b :=
  ⟨h, nofun, rfl, rfl⟩

theorem of_history_eq_left {calls : List Call} {exchanges : List Exchange}
    (hab : b.history = a.history) (hbc : Exchanged database session calls exchanges b c) :
    Exchanged database session calls exchanges a c :=
  ⟨hab ▸ hbc.history, hbc.connection, hbc.prepared, hab ▸ hbc.answers⟩

theorem trans {calls later : List Call} {exchanges others : List Exchange}
    (hab : Exchanged database session calls exchanges a b)
    (hbc : Exchanged database session later others b c) :
    Exchanged database session (later ++ calls) (exchanges ++ others) a c where
  history := by rw [hbc.history, hab.history, List.append_assoc]
  connection := by
    intro call hcall
    rcases List.mem_append.mp hcall with hcall | hcall
    · exact hbc.connection call hcall
    · exact hab.connection call hcall
  prepared := by
    rw [List.filterMap_append, hab.prepared, hbc.prepared, List.map_append, List.reverse_append]
  answers := by
    rw [Database.answers, Database.collect_append, List.map_append, List.reverse_append,
      ← hab.answers, ← hbc.answers, hab.history]
    rfl

end Notebook.Exchanged

/-- A statement that is sent is exchanged for its answer. -/
theorem Notebook.exchanged_send {database : Database} {session : Connection} {sql : String}
    {answer : Except Error Answer} {before after : Notebook}
    (hsend : (database.send session sql).run before.history = (answer, after.history))
    (flags : List String) :
    ∃ calls, Exchanged database session calls [(⟨sql, flags⟩, answer)] before after := by
  obtain ⟨calls, hcalls, -, hprepared, hconnection, hanswers⟩ :=
    database.answers_send session sql before.history
  rw [hsend] at hcalls hanswers
  exact ⟨calls, hcalls, hconnection, hprepared, hanswers⟩

/-! ### Opening a connection -/

namespace Action

variable {database : Database} {notebook linked : Notebook} {source : Source}
  {session : Connection}

theorem run_settleSource_of_ok (hrun : settleSource.run notebook = (.ok source, linked)) :
    linked = { notebook with source := some source } := by
  obtain ⟨settings, store, macros, hostVariables, flags, known, session, status, history⟩ := notebook
  rw [settleSource, run_bind, run_get] at hrun
  rcases known with - | known
  · rcases hurl : settings.databaseUrl with - | url
    · simp only [hurl] at hrun
      cases hrun
    · simp only [hurl] at hrun
      cases hrun
      rfl
  · cases hrun
    rfl

/-- Opening a connection sends nothing and changes nothing else. -/
theorem run_ensureConnected_of_ok
    (hrun : (ensureConnected database).run notebook = (.ok session, linked)) :
    ∃ source calls,
      linked = { notebook with
        source, session := some session, history := calls ++ notebook.history } ∧
      Notebook.Exchanged database session calls [] notebook linked := by
  rw [ensureConnected, run_bind, run_get] at hrun
  dsimp only at hrun
  rcases hsession : notebook.session with - | opened
  · rw [hsession] at hrun
    dsimp only at hrun
    rw [run_bind] at hrun
    rcases hsettled : settleSource.run notebook with ⟨error | source, settled⟩
    · rw [hsettled] at hrun
      cases hrun
    -- one call, about the connection that it opens, whatever the database answers with
    · obtain rfl := run_settleSource_of_ok hsettled
      rw [hsettled] at hrun
      dsimp only at hrun
      rw [run_bind, run_ofTalk, Database.run_connect] at hrun
      dsimp only at hrun
      generalize database.reply _ (.connect (.next source notebook.history)) = reply at hrun
      rcases reply with error | opened
      · cases hrun
      · cases hrun
        exact ⟨some source, [.connect _], rfl, rfl, List.forall_mem_singleton.mpr rfl, rfl, rfl⟩
  · rw [hsession] at hrun
    cases hrun
    exact ⟨notebook.source, [], hsession ▸ rfl, .of_history_eq rfl⟩

end Action

/-! ### One statement -/

theorem Notebook.withFlags_nil (notebook : Notebook) : notebook.withFlags [] = notebook := by
  rw [withFlags, List.append_nil]

theorem Notebook.shown_noteSize (notebook : Notebook) (table : ResultTable) :
    (notebook.noteSize table).shown table = notebook.shown table := by
  rw [noteSize]
  by_cases hempty : table.isEmpty
  · rw [if_pos hempty]
    rfl
  · rw [if_neg hempty]

/-- A cell goes on behind an answer set if that is only reported. -/
theorem Notebook.outcome_shown_iff (notebook : Notebook) (table : ResultTable) :
    (notebook.shown table).outcome = .noRows ↔
      ¬ Answer.ends notebook.flags (.ok (.rows table)) := by
  have hflags : notebook.flags.any ["-j", "-json", "-r", "-array"].contains =
      (notebook.has .documents || notebook.has .raw) := by
    rw [Bool.eq_iff_iff]
    simp only [has, hasAny, Flag.forms, List.any_eq_true, Bool.or_eq_true, List.contains_iff_mem,
      ← exists_or, ← and_or_left]
    simp [or_assoc]
  rw [Answer.ends, hflags, shown]
  by_cases hdocuments : notebook.has .documents
  · simp [hdocuments]
  · by_cases hraw : notebook.has .raw
    · simp [hraw, hdocuments]
    · by_cases hempty : table.isEmpty
      · simp [hraw, hdocuments, hempty]
      · simp [hraw, hdocuments, hempty]

namespace Action

theorem run_readStatement_of_error {statement : String} {notebook : Notebook} {error : Error}
    (hread : notebook.read statement = .error error) :
    (readStatement statement).run notebook = (.error error, notebook) := by
  rw [readStatement, run_bind, run_expand]
  rw [Notebook.read] at hread
  generalize notebook.macros.expand statement = expanded at hread ⊢
  rcases expanded with broken | expansion
  · cases hread
    rfl
  · cases hread

theorem run_readStatement_of_ok {statement : String} {notebook : Notebook} {reading : Reading}
    (hread : notebook.read statement = .ok reading) :
    ∃ notices, (readStatement statement).run notebook =
      (.ok (notices, reading.sql), notebook.withFlags reading.flags) := by
  rw [readStatement, run_bind, run_expand]
  rw [Notebook.read] at hread
  generalize notebook.macros.expand statement = expanded at hread ⊢
  rcases expanded with broken | expansion
  · cases hread
  · obtain rfl := Except.ok.inj hread
    dsimp only
    by_cases hexited : expansion.exited
    · rw [if_pos hexited, if_pos hexited, run_pure]
      dsimp only
      rw [notebook.withFlags_nil]
      exact ⟨_, rfl⟩
    · rw [if_neg hexited, if_neg hexited, run_bind, run_takeFlags]
      dsimp only
      rw [run_bind, run_get]
      exact ⟨_, rfl⟩

theorem run_present (table : ResultTable) (notebook : Notebook) :
    (present table).run notebook = (.ok (notebook.shown table), notebook.noteSize table) := by
  rw [present, run_bind, run_modify]
  dsimp only
  rw [run_bind, run_get, ← notebook.shown_noteSize table]
  rfl

/-- An answer behind which the cell ends is an answer set that is shown. -/
theorem run_settle_of_ends (progress : Progress) (notebook : Notebook)
    {answer : Except Error Answer} (hends : Answer.ends notebook.flags answer) :
    ∃ table response, answer = .ok (.rows table) ∧
      ((settle progress answer).run notebook).1 = .ok (.shown response) ∧
      response.outcome = (notebook.shown table).outcome := by
  rcases answer with error | table | count
  · cases hends
  · refine ⟨table, (notebook.shown table).after progress.notices, rfl, ?_, rfl⟩
    rw [settle, run_bind, run_present]
    dsimp only
    have hshown : (notebook.shown table).outcome ≠ .noRows :=
      fun houtcome => (notebook.outcome_shown_iff table).mp houtcome hends
    split
    · contradiction
    · rfl
  · cases hends

/-- Behind any other answer the cell goes on, with that answer counted. -/
theorem run_settle_of_not_ends (progress : Progress) (notebook : Notebook)
    {answer : Except Error Answer} (hends : ¬ Answer.ends notebook.flags answer) :
    ∃ next, ((settle progress answer).run notebook).1 = .ok (.next next) ∧
      (next.affected, next.outcome) =
        Answer.tally (progress.affected, progress.outcome) answer := by
  rcases answer with error | table | count
  · refine ⟨_, rfl, ?_⟩
    dsimp only [Answer.tally]
    split <;> rfl
  · rw [settle, run_bind, run_present]
    dsimp only
    rw [(notebook.outcome_shown_iff table).mpr hends]
    exact ⟨_, rfl, rfl⟩
  · refine ⟨_, rfl, ?_⟩
    dsimp only [Answer.tally]

variable (database : Database) (session : Connection) {progress : Progress}
  {notebook : Notebook} {statement : String}

/-- A statement that cannot be read changes nothing. -/
theorem run_runStatement_of_broken {error : Error} (hread : notebook.read statement = .error error) :
    (runStatement database session progress statement).run notebook = (.error error, notebook) := by
  rw [runStatement, run_bind, run_readStatement_of_error hread]

/-- A statement with nothing to send brings its flags. -/
theorem run_runStatement_of_silent {brought : List String}
    (hread : notebook.read statement = .ok ⟨brought, none⟩) :
    ∃ notices, (runStatement database session progress statement).run notebook =
      (.ok (.next (progress.report notices)), notebook.withFlags brought) := by
  obtain ⟨notices, hrun⟩ := run_readStatement_of_ok hread
  rw [runStatement, run_bind, hrun]
  exact ⟨notices, rfl⟩

/-- A statement with something to send brings its flags, and is exchanged for its answer,
behind which the cell ends or goes on. -/
theorem run_runStatement_of_sent {brought : List String} {sql : String}
    (hread : notebook.read statement = .ok ⟨brought, some sql⟩) :
    ∃ calls answer status history step,
      (runStatement database session progress statement).run notebook =
        (.ok step, { notebook.withFlags brought with status, history }) ∧
      Notebook.Exchanged database session calls [(⟨sql, notebook.flags ++ brought⟩, answer)]
        notebook { notebook.withFlags brought with status, history } ∧
      (Answer.ends (notebook.flags ++ brought) answer →
        ∃ table response, answer = .ok (.rows table) ∧ step = .shown response ∧
          response.outcome = ((notebook.withFlags brought).shown table).outcome) ∧
      (¬ Answer.ends (notebook.flags ++ brought) answer →
        ∃ next, step = .next next ∧ (next.affected, next.outcome) =
          Answer.tally (progress.affected, progress.outcome) answer) := by
  obtain ⟨notices, hrun⟩ := run_readStatement_of_ok hread
  rw [runStatement, run_bind, hrun]
  dsimp only
  rw [run_bind, run_get]
  dsimp only
  rw [run_bind, run_attempt, run_ofTalk]
  -- an echo only adds a notice
  have hecho {echo : Bool} {shown : List Notice} {progress : Progress} :
      (if echo then progress.report shown else progress).affected = progress.affected ∧
        (if echo then progress.report shown else progress).outcome = progress.outcome := by
    cases echo
    · exact ⟨rfl, rfl⟩
    · exact ⟨rfl, rfl⟩
  generalize hprogress : (if (notebook.withFlags brought).has .echo then
    (progress.report notices).report [.info sql] else progress.report notices) = ready
  have haffected : ready.affected = progress.affected := hprogress ▸ hecho.1
  have houtcome : ready.outcome = progress.outcome := hprogress ▸ hecho.2
  dsimp only
  generalize hsend : (database.send session sql).run (notebook.withFlags brought).history = talked
  obtain ⟨answer, history⟩ := talked
  dsimp only
  obtain ⟨step, hsettle⟩ := run_settle ready answer { notebook.withFlags brought with history }
  obtain ⟨calls, hcalls⟩ : ∃ calls, Notebook.Exchanged database session calls
      [(⟨sql, notebook.flags ++ brought⟩, answer)] notebook
      { notebook.withFlags brought with
        status := notebook.status.afterAnswer answer
        history } :=
    Notebook.exchanged_send hsend _
  refine ⟨calls, answer, _, history, step, hsettle, hcalls, fun hends => ?_, fun hends => ?_⟩
  · obtain ⟨table, response, hanswer, hshown, hresponse⟩ :=
      run_settle_of_ends ready { notebook.withFlags brought with history } hends
    rw [hsettle] at hshown
    exact ⟨table, response, hanswer, Except.ok.inj hshown, hresponse⟩
  · obtain ⟨next, hnext, htally⟩ :=
      run_settle_of_not_ends ready { notebook.withFlags brought with history } hends
    rw [hsettle] at hnext
    rw [haffected, houtcome] at htally
    exact ⟨next, Except.ok.inj hnext, htally⟩

/-! ### All statements -/

/-- **A cell keeps to what is due.** -/
theorem cellRun_runStatements (statements : List String) (progress : Progress)
    (notebook : Notebook) :
    ∃ calls exchanges,
      Notebook.Exchanged database session calls exchanges notebook
        ((runStatements database session progress statements).run notebook).2 ∧
      CellRun notebook (Notebook.due notebook.read notebook.flags statements)
        (progress.affected, progress.outcome) exchanges
        ((runStatements database session progress statements).run notebook).1 := by
  -- The flags and the history grow from one statement to the next, so the notebook has to
  -- vary; `CellRun` looks at neither and is carried back by `of_moment`.
  induction statements generalizing progress notebook with
  | nil => exact ⟨[], [], .of_history_eq rfl, .finished rfl⟩
  | cons statement rest ih =>
    rw [runStatements, run_bind, Notebook.due]
    rcases hread : notebook.read statement with error | ⟨brought, sql⟩
    · rw [run_runStatement_of_broken database session hread]
      exact ⟨[], [], .of_history_eq rfl, .broken error⟩
    · rcases sql with - | sql
      -- a statement with nothing to send may still have brought flags
      · obtain ⟨notices, hrun⟩ := run_runStatement_of_silent database session hread
        rw [hrun]
        obtain ⟨calls, exchanges, hexchanged, hcell⟩ :=
          ih (progress.report notices) (notebook.withFlags brought)
        have hhistory : (notebook.withFlags brought).history = notebook.history := rfl
        exact ⟨calls, exchanges, .of_history_eq_left hhistory hexchanged, hcell.of_moment⟩
      · obtain ⟨first, answer, status, history, step, hrun, hfirst, hshown, hnext⟩ :=
          run_runStatement_of_sent database session hread
        rw [hrun]
        by_cases hends : Answer.ends (notebook.flags ++ brought) answer
        · obtain ⟨table, response, rfl, rfl, houtcome⟩ := hshown hends
          exact ⟨first, _, hfirst, .shown hends houtcome⟩
        · obtain ⟨next, rfl, htally⟩ := hnext hends
          obtain ⟨calls, exchanges, hexchanged, hcell⟩ :=
            ih next { notebook.withFlags brought with status, history }
          refine ⟨calls ++ first, _ :: exchanges, hfirst.trans hexchanged, .next hends ?_⟩
          rw [← htally]
          exact hcell.of_moment.of_moment

/-- The cell of a connected notebook. -/
theorem run_runCell {notebook : Notebook} {session : Connection}
    (hsession : notebook.session = some session) (sql : String) :
    ∃ calls exchanges,
      Notebook.Exchanged database session calls exchanges notebook
        ((runCell database sql).run notebook).2 ∧
      CellRun notebook (notebook.dueCell sql) (0, .completed 0) exchanges
        ((runCell database sql).run notebook).1 := by
  have hrun : (runCell database sql).run notebook =
      (runStatements database session {}
        (Statement.split sql (if notebook.has .delimiter then '@' else ';'))).run notebook := by
    rw [runCell, run_bind, ensureConnected, run_bind, run_get]
    dsimp only
    rw [hsession]
    dsimp only
    rw [run_pure]
    dsimp only
    rw [run_bind, run_get]
  rw [hrun]
  exact cellRun_runStatements database session _ {} notebook

end Action

/-! ### Where a cell is cut off -/

namespace Answer

/-- The changed rows are counted as 64 bits can. -/
theorem toNat_foldl_tally (answers : List (Except Error Answer)) (start : UInt64 × Outcome) :
    (answers.foldl tally start).1.toNat =
      (start.1.toNat + (answers.map count).sum) % UInt64.size := by
  induction answers generalizing start with
  | nil => exact (Nat.mod_eq_of_lt start.1.toNat_lt).symm
  | cons answer answers ih =>
    have hstep : (tally start answer).1.toNat = (start.1.toNat + count answer) % UInt64.size := by
      rcases answer with error | table | changed
      · exact (Nat.mod_eq_of_lt start.1.toNat_lt).symm
      · exact (Nat.mod_eq_of_lt start.1.toNat_lt).symm
      · exact UInt64.toNat_add start.1 changed
    rw [List.foldl_cons, ih, hstep, Nat.mod_add_mod, List.map_cons, List.sum_cons, Nat.add_assoc]

/-- The last answer decides the outcome, if no rows are shown. -/
theorem outcome_foldl_tally {answers : List (Except Error Answer)}
    (h : ∀ table, answers.getLast? = some (.ok (.rows table)) → table.isEmpty) :
    (answers.foldl tally (0, .completed 0)).2 =
      if answers.getLast?.any lacksRows then .noRows
      else .completed (answers.foldl tally (0, .completed 0)).1 := by
  rcases List.eq_nil_or_concat answers with rfl | ⟨earlier, last, rfl⟩
  · rfl
  · rw [List.concat_eq_append, List.getLast?_concat] at h ⊢
    rw [List.foldl_append, Option.any_some]
    rcases last with error | table | changed
    · rfl
    · rw [lacksRows, if_pos (h table rfl)]
      rfl
    · rfl

end Answer

namespace CellRun

variable {notebook : Notebook} {due : List Sending × Option Error} {tally : UInt64 × Outcome}
  {exchanges : List Exchange} {result : Except Error Response}

/-- What is sent is a first part of what is due. -/
theorem sent_prefix (h : CellRun notebook due tally exchanges result) :
    exchanges.map Prod.fst <+: due.1 := by
  induction h with
  | finished | broken => exact List.nil_prefix
  | shown => exact List.prefix_append [_] _
  | next _ _ ih => exact List.cons_prefix_cons.mpr ⟨rfl, ih⟩

/-- Only the last statement that is sent can end the cell. -/
theorem not_ends_of_mem_dropLast (h : CellRun notebook due tally exchanges result) :
    ∀ exchange ∈ exchanges.dropLast, ¬ exchange.ends := by
  induction h with
  | finished | broken | shown => exact nofun
  | @next _ _ _ _ _ exchanges _ hends _ ih =>
    rcases exchanges with - | ⟨second, exchanges⟩
    · exact nofun
    · exact List.forall_mem_cons.mpr ⟨hends, ih⟩

/-- A cell either ends with a statement whose rows are shown, or all that is due is sent. -/
theorem shown_or_all (h : CellRun notebook due tally exchanges result) :
    (∃ sending table response, exchanges.getLast? = some (sending, .ok (.rows table)) ∧
        Answer.ends sending.flags (.ok (.rows table)) ∧ result = .ok response ∧
        response.outcome =
          (({ notebook with flags := sending.flags } : Notebook).shown table).outcome) ∨
      (∀ exchange ∈ exchanges, ¬ exchange.ends) ∧ exchanges.map Prod.fst = due.1 ∧
        match due.2 with
        | some error => result = .error error
        | none => ∃ response, result = .ok response ∧
            response.outcome = ((exchanges.map Prod.snd).foldl Answer.tally tally).2 := by
  induction h with
  | finished houtcome => exact .inr ⟨nofun, rfl, _, rfl, houtcome⟩
  | broken error => exact .inr ⟨nofun, rfl, rfl⟩
  | shown hends houtcome => exact .inl ⟨_, _, _, rfl, hends, rfl, houtcome⟩
  | next hends _ ih =>
    rcases ih with ⟨sending, table, response, hlast, hshown, hresult, houtcome⟩ |
      ⟨hnone, hall, hresult⟩
    · refine .inl ⟨sending, table, response, ?_, hshown, hresult, houtcome⟩
      rw [List.getLast?_cons, hlast]
      rfl
    · refine .inr ⟨List.forall_mem_cons.mpr ⟨hends, hnone⟩, ?_, hresult⟩
      rw [List.map_cons, hall]

/-- What a cell comes to whose rows are not shown. -/
theorem counted (h : CellRun notebook due (0, .completed 0) exchanges result)
    (hnone : ∀ exchange ∈ exchanges, ¬ exchange.ends) :
    match due.2 with
    | some error => result = .error error
    | none => ∃ response affected, result = .ok response ∧
        affected.toNat = (exchanges.map (Answer.count ·.2)).sum % UInt64.size ∧
        response.outcome =
          if exchanges.getLast?.any (Answer.lacksRows ·.2) then .noRows
          else .completed affected := by
  rcases h.shown_or_all with ⟨sending, table, response, hlast, hends, -⟩ | ⟨-, -, hresult⟩
  · exact absurd hends (hnone _ (List.mem_of_getLast? hlast))
  · rcases hdue : due.2 with - | error
    · rw [hdue] at hresult
      obtain ⟨response, hok, houtcome⟩ := hresult
      have hlast : ∀ table, (exchanges.map Prod.snd).getLast? = some (.ok (.rows table)) →
          table.isEmpty := by
        intro table hlast
        rw [List.getLast?_map, Option.map_eq_some_iff] at hlast
        obtain ⟨exchange, hexchange, hanswer⟩ := hlast
        have hends := hnone exchange (List.mem_of_getLast? hexchange)
        rw [Exchange.ends, hanswer, Answer.ends, Bool.not_eq_true, Bool.or_eq_false_iff] at hends
        simpa using hends.1
      refine ⟨response, ((exchanges.map Prod.snd).foldl Answer.tally (0, .completed 0)).1, hok,
        ?_, houtcome.trans ?_⟩
      · rw [Answer.toNat_foldl_tally, List.map_map]
        exact congrArg (· % UInt64.size) (Nat.zero_add _)
      · rw [Answer.outcome_foldl_tally hlast, List.getLast?_map, Option.any_map]
    · rw [hdue] at hresult
      exact hresult

end CellRun

/-- **Which statements of a cell are sent.**  All calls of a cell are about its connection.
It sends a first part of what is due, each statement after the answer to the one before;
only the last statement that is sent can end it.  If that one does, its rows are shown.
Otherwise all that is due has been sent; then the cell fails with the error behind it, if
there is one, and else its outcome is that there were no rows, if the last answer says
so, or the number of rows that have been changed. -/
theorem Action.run_cell_cutoff (database : Database) (notebook : Notebook) (session : Connection)
    (sql : String) (hsession : notebook.session = some session) :
    ∃ (calls : List Call) (exchanges : List Exchange),
      ((runCell database sql).run notebook).2.history = calls ++ notebook.history ∧
      (∀ call ∈ calls, call.connection = session) ∧
      (calls.filterMap Call.prepared?).reverse = exchanges.map (·.1.sql) ∧
      (database.answers notebook.history calls).reverse = exchanges.map Prod.snd ∧
      exchanges.map Prod.fst <+: (notebook.dueCell sql).1 ∧
      (∀ exchange ∈ exchanges.dropLast, ¬ exchange.ends) ∧
      ((∃ sending table response, exchanges.getLast? = some (sending, .ok (.rows table)) ∧
          Answer.ends sending.flags (.ok (.rows table)) ∧
          ((runCell database sql).run notebook).1 = .ok response ∧
          response.outcome =
            (({ notebook with flags := sending.flags } : Notebook).shown table).outcome) ∨
        (∀ exchange ∈ exchanges, ¬ exchange.ends) ∧
          exchanges.map Prod.fst = (notebook.dueCell sql).1 ∧
          match (notebook.dueCell sql).2 with
          | some error => ((runCell database sql).run notebook).1 = .error error
          | none => ∃ response affected, ((runCell database sql).run notebook).1 = .ok response ∧
              affected.toNat = (exchanges.map (Answer.count ·.2)).sum % UInt64.size ∧
              response.outcome =
                if exchanges.getLast?.any (Answer.lacksRows ·.2) then .noRows
                else .completed affected) ∧
      ∀ error, (notebook.dueCell sql).2 = some error →
        ∃ message statement, error = .structural message statement := by
  obtain ⟨calls, exchanges, hexchanged, hcell⟩ := run_runCell database hsession sql
  have hstructural := @Notebook.structural_of_dueCell notebook sql
  generalize notebook.dueCell sql = due at hcell hstructural ⊢
  refine ⟨calls, exchanges, hexchanged.history, hexchanged.connection, ?_, ?_, hcell.sent_prefix,
    hcell.not_ends_of_mem_dropLast, ?_, @hstructural⟩
  · rw [hexchanged.prepared, List.reverse_reverse]
  · rw [hexchanged.answers, List.reverse_reverse]
  · rcases hcell.shown_or_all with hshown | ⟨hnone, hall, -⟩
    · exact .inl hshown
    · exact .inr ⟨hnone, hall, hcell.counted hnone⟩

/-- A statement that is refused, a query, and one more statement. -/
def queryLine : String :=
  "DELETE FROM LOST; SELECT A FROM T; DELETE FROM FOUND"

/-- The refused statement does not end the cell, and the query does: the third statement is
not sent, and what the query brings is shown. -/
theorem Action.run_cell_cutoff_queryLine :
    let rows : ResultTable := ⟨[⟨"SQL", "VARCHAR"⟩], [[.text "SELECT A FROM T"]], [0]⟩
    Notebook.linked.session = some ⟨.given, 1⟩ ∧
      ∃ (calls : List Call) (exchanges : List Exchange),
        ((runCell Notebook.lossy.database queryLine).run .linked).2.history = calls ++ [] ∧
        (calls.filterMap Call.prepared?).reverse = exchanges.map (·.1.sql) ∧
        exchanges.map Prod.fst <+:
          [⟨"DELETE FROM LOST", []⟩, ⟨"SELECT A FROM T", []⟩, ⟨"DELETE FROM FOUND", []⟩] ∧
        exchanges =
          [(⟨"DELETE FROM LOST", []⟩,
              .error (.database (some "-204") (some "42704") "LOST is an undefined name.")),
            (⟨"SELECT A FROM T", []⟩, .ok (.rows rows))] ∧
        (∀ exchange ∈ exchanges.dropLast, ¬ exchange.ends) ∧
        ∃ response, ((runCell Notebook.lossy.database queryLine).run .linked).1 = .ok response ∧
          response.outcome = (Notebook.linked.shown rows).outcome := by
  intro rows
  obtain ⟨calls, exchanges, hhistory, -, hprepared, hanswers, hprefix, hlast, hended, -⟩ :=
    run_cell_cutoff Notebook.lossy.database .linked ⟨.given, 1⟩ queryLine rfl
  have hdue : (Notebook.linked.dueCell queryLine).1 =
      [⟨"DELETE FROM LOST", []⟩, ⟨"SELECT A FROM T", []⟩, ⟨"DELETE FROM FOUND", []⟩] := by
    decide +kernel
  have hcalls : ((runCell Notebook.lossy.database queryLine).run .linked).2.history =
      [.fetch ⟨.given, 1⟩ ⟨"SELECT A FROM T", [⟨"SQL", "VARCHAR"⟩]⟩,
        .prepare ⟨.given, 1⟩ "SELECT A FROM T", .prepare ⟨.given, 1⟩ "DELETE FROM LOST"] := by
    decide +kernel
  rw [hdue] at hprefix
  -- two statements have been answered, so they are the first two that are due
  have hmade := hhistory.symm.trans hcalls
  rw [show Notebook.linked.history = [] from rfl, List.append_nil] at hmade
  subst hmade
  have hanswers : exchanges.map Prod.snd =
      [.error (.database (some "-204") (some "42704") "LOST is an undefined name."),
        .ok (.rows rows)] := hanswers.symm
  have hsent : exchanges.map Prod.fst = [⟨"DELETE FROM LOST", []⟩, ⟨"SELECT A FROM T", []⟩] := by
    have htwo : exchanges.length = 2 := by
      rw [← List.length_map Prod.snd, hanswers]
      rfl
    rw [List.prefix_iff_eq_take.mp hprefix, List.length_map, htwo]
    rfl
  have hexchanges := List.zip_unzip exchanges
  rw [List.unzip_eq_map, hsent, hanswers] at hexchanges
  subst hexchanges
  refine ⟨rfl, _, _, hcalls, hprepared, hprefix, rfl, hlast, ?_⟩
  rcases hended with ⟨_, _, response, hquery, -, hok, houtcome⟩ | ⟨hnone, -⟩
  · obtain ⟨rfl, rfl⟩ : _ ∧ _ := by simpa using hquery
    exact ⟨response, hok, houtcome⟩
  · exact absurd rfl (hnone _ (List.mem_cons_of_mem _ List.mem_cons_self))

end SqlNotebook
