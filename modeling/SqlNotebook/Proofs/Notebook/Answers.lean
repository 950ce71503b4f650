/-
SqlNotebook/Proofs/Notebook/Answers.lean

What the database answers to the statements of a cell, and what becomes of the
status.  Each statement that is sent gets one answer: its failure, the number of
rows it has changed, or its rows.  The answers are found among the calls; like
these, the last one comes first.  The status goes through them one by one,

    status behind the cell  =  answers.foldr Status.afterAnswer (status before it),

and nothing else in a cell touches it.  `Action.Reports` says so of a piece of a
cell; it is closed under sequences, so a cell has it from its parts.
-/
import SqlNotebook.Proofs.FanOut.Calls
import SqlNotebook.Proofs.Notebook.Entry

namespace SqlNotebook

/-- Whether a call sends a statement.  It is run, if at all, by a later call. -/
def Call.sends : Call → Bool
  | prepare .. => true
  | _ => false

/-- The SQL of a statement that a call sends. -/
def Call.prepared? : Call → Option String
  | prepare _ sql => some sql
  | _ => none

namespace Database

variable (database : Database)

/-- The answer to a statement that comes with a call, made after the calls `before`.
A statement that is described without a failure still has its answer to come. -/
def answer? (before : History) : Call → Option (Except Error Answer)
  | .prepare connection sql =>
    match database.reply before (.prepare connection sql) with
    | .ok _ => none
    | .error error => some (.error error)
  | .execute connection statement =>
    some ((database.reply before (.execute connection statement)).map .changed)
  | .fetch connection statement =>
    some ((database.reply before (.fetch connection statement)).map .rows)
  | _ => none

/-- The answers to the statements that calls on top of `earlier` are about, the last
one first. -/
def answers : History → List Call → List (Except Error Answer) :=
  collect database.answer?

/-! ### One statement -/

/-- A call whose reply is the answer. -/
theorem run_ask_answer {call : Call} (answer : call.Reply → Answer) (history : History) :
    (database.ask call >>= fun reply => (pure (answer reply) : Talk Answer)).run history =
      ((database.reply history call).map answer, call :: history) := by
  rw [Talk.run_bind, run_ask]
  rcases database.reply history call with error | reply <;> rfl

/-- A statement that is sent gets one answer.  The calls that this takes are about the
given connection, and one of them sends the statement. -/
theorem answers_send (session : Connection) (sql : String) (history : History) :
    ∃ calls, ((database.send session sql).run history).2 = calls ++ history ∧
      calls.countP Call.sends = 1 ∧
      calls.filterMap Call.prepared? = [sql] ∧
      (∀ call ∈ calls, call.connection = session) ∧
      database.answers history calls = [((database.send session sql).run history).1] := by
  rw [send, Talk.run_bind, run_prepare]
  rcases hprepare : database.reply history (.prepare session sql) with error | columns
  · refine ⟨[.prepare session sql], rfl, rfl, rfl, List.forall_mem_singleton.mpr rfl, ?_⟩
    simp [answers, collect, answer?, hprepare, Except.map]
  · have habout {call : Call} (hcall : call.connection = session) :
        ∀ other ∈ [call, .prepare session sql], other.connection = session :=
      List.forall_mem_cons.mpr ⟨hcall, List.forall_mem_singleton.mpr rfl⟩
    dsimp only [Except.map]
    by_cases hcolumns : columns.isEmpty
    · rw [if_pos hcolumns, execute, run_ask_answer]
      refine ⟨[.execute session ⟨sql, columns⟩, .prepare session sql], rfl, rfl, rfl,
        habout rfl, ?_⟩
      simp [answers, collect, answer?, hprepare]
    · rw [if_neg hcolumns, fetch, run_ask_answer]
      refine ⟨[.fetch session ⟨sql, columns⟩, .prepare session sql], rfl, rfl, rfl,
        habout rfl, ?_⟩
      simp [answers, collect, answer?, hprepare]

end Database

/-- What an answer makes of the status. -/
def Status.afterAnswer : Except Error Answer → Status → Status
  | .error error, _ => .ofError error
  | .ok (.rows table), status =>
    if table.isEmpty then { status with code := noRowsCode } else status
  | .ok (.changed _), status => status

/-- What calls have made of a notebook: they have come on top of the history, each
statement among them has been answered, and the status has gone through the answers. -/
structure Notebook.ReportedBy (database : Database) (calls : List Call)
    (before after : Notebook) : Prop where
  history : after.history = calls ++ before.history
  answered : (database.answers before.history calls).length = calls.countP Call.sends
  status : after.status =
    (database.answers before.history calls).foldr Status.afterAnswer before.status

/-- The way from one point of a run to a later one. -/
def Notebook.Reported (database : Database) (before after : Notebook) : Prop :=
  ∃ calls, ReportedBy database calls before after

namespace Notebook.Reported

variable {database : Database} {a b c : Notebook}

theorem of_eq (hhistory : b.history = a.history) (hstatus : b.status = a.status) :
    Reported database a b :=
  ⟨[], hhistory, rfl, hstatus⟩

theorem trans (hab : Reported database a b) (hbc : Reported database b c) :
    Reported database a c := by
  obtain ⟨first, hfirst⟩ := hab
  obtain ⟨second, hsecond⟩ := hbc
  -- what the later calls are answered depends on the earlier ones, on which they lie
  have hanswers : database.answers a.history (second ++ first) =
      database.answers b.history second ++ database.answers a.history first := by
    rw [hfirst.history]
    exact Database.collect_append _ _ _ _
  refine ⟨second ++ first, ?_, ?_, ?_⟩
  · rw [hsecond.history, hfirst.history, List.append_assoc]
  · rw [hanswers, List.length_append, List.countP_append, hsecond.answered, hfirst.answered]
  · rw [hanswers, List.foldr_append, ← hfirst.status]
    exact hsecond.status

end Notebook.Reported

namespace Action

variable {α β : Type} (database : Database)

/-- An action with which the status goes through the answers to all that it sends,
also if it fails. -/
def Reports (action : Action α) : Prop :=
  ∀ notebook, Notebook.Reported database notebook (action.run notebook).2

namespace Reports

variable {database}

/-- An action that sends nothing and leaves the status alone. -/
theorem of_keeps {action : Action α}
    (hhistory : ∀ notebook, (action.run notebook).2.history = notebook.history)
    (hstatus : ∀ notebook, (action.run notebook).2.status = notebook.status) :
    Reports database action :=
  fun notebook => .of_eq (hhistory notebook) (hstatus notebook)

theorem pure (a : α) : Reports database (pure a : Action α) :=
  of_keeps (fun _ => rfl) fun _ => rfl

theorem get : Reports database (get : Action Notebook) :=
  of_keeps (fun _ => rfl) fun _ => rfl

theorem ofExcept (outcome : Except Error α) : Reports database (ofExcept outcome) :=
  of_keeps (fun _ => rfl) fun _ => rfl

theorem bind {action : Action α} {next : α → Action β} (haction : Reports database action)
    (hnext : ∀ a, Reports database (next a)) : Reports database (action >>= next) := by
  intro notebook
  apply run_bind_keeps notebook (Notebook.Reported database notebook) (haction notebook)
  intro a changed hreported
  exact hreported.trans (hnext a changed)

end Reports

/-! ### The parts of a cell -/

theorem reports_expand (text : String) : Reports database (expand text) :=
  .bind .get fun _ => .ofExcept _

theorem reports_takeFlags (text : String) : Reports database (takeFlags text) :=
  .of_keeps (fun _ => rfl) fun _ => rfl

theorem reports_readStatement (statement : String) :
    Reports database (readStatement statement) := by
  refine .bind (reports_expand database statement) fun expansion => ?_
  by_cases hexited : expansion.exited
  · rw [if_pos hexited]
    exact .pure _
  · rw [if_neg hexited]
    exact .bind (reports_takeFlags database _) fun _ => .bind .get fun _ => .pure _

theorem reports_settleSource : Reports database settleSource := by
  -- the notebook that is put back is the one that has been read, which `bind` forgets
  intro notebook
  rw [settleSource, run_bind, run_get]
  dsimp only
  rcases notebook.source with - | source
  · rcases notebook.settings.databaseUrl with - | url
    · exact .of_eq rfl rfl
    · exact .of_eq rfl rfl
  · exact .of_eq rfl rfl

theorem reports_ensureConnected : Reports database (ensureConnected database) := by
  refine .bind .get fun notebook => ?_
  rcases notebook.session with - | session
  · refine .bind (reports_settleSource database) fun source => ?_
    refine .bind ?_ fun session => .bind (.of_keeps (fun _ => rfl) fun _ => rfl) fun _ => .pure _
    intro notebook
    rw [run_ofTalk, Database.run_connect]
    exact ⟨[.connect (.next source notebook.history)], rfl, rfl, rfl⟩
  · exact .pure _

/-- Taking an answer in changes the status and nothing else. -/
theorem run_settle (progress : Progress) (answer : Except Error Answer) (notebook : Notebook) :
    ∃ next, (settle progress answer).run notebook =
      (.ok next, { notebook with status := notebook.status.afterAnswer answer }) := by
  rcases answer with error | table | count
  · exact ⟨_, rfl⟩
  · rw [settle, run_bind, present, run_bind, run_modify]
    dsimp only
    rw [run_bind, run_get]
    dsimp only
    rw [run_pure]
    dsimp only
    have hnote : notebook.noteSize table =
        { notebook with status := notebook.status.afterAnswer (.ok (.rows table)) } := by
      rw [Notebook.noteSize, Status.afterAnswer]
      by_cases hempty : table.isEmpty
      · rw [if_pos hempty, if_pos hempty]
      · rw [if_neg hempty, if_neg hempty]
    rw [hnote]
    split
    · exact ⟨_, rfl⟩
    · exact ⟨_, rfl⟩
  · exact ⟨_, rfl⟩

/-- The statement that is sent and its answer. -/
theorem reports_send (session : Connection) (sql : String) (progress : Progress) :
    Reports database (attempt (ofTalk (database.send session sql)) >>= settle progress) := by
  -- neither half does so alone: the first one brings the answer, the second one the status
  intro notebook
  obtain ⟨calls, hcalls, hsent, -, -, hanswers⟩ :=
    database.answers_send session sql notebook.history
  rw [run_bind, run_attempt, run_ofTalk]
  dsimp only
  obtain ⟨next, hsettle⟩ := run_settle progress
    ((database.send session sql).run notebook.history).1
    { notebook with history := ((database.send session sql).run notebook.history).2 }
  rw [hsettle]
  refine ⟨calls, hcalls, ?_, ?_⟩
  · rw [hanswers, hsent]
    rfl
  · rw [hanswers]
    rfl

theorem reports_runStatement (session : Connection) (progress : Progress) (statement : String) :
    Reports database (runStatement database session progress statement) := by
  refine .bind (reports_readStatement database statement) fun (notices, sql) => ?_
  rcases sql with - | sql
  · exact .pure _
  · exact .bind .get fun _ => reports_send database session sql _

theorem reports_runStatements (session : Connection) (statements : List String) :
    ∀ progress, Reports database (runStatements database session progress statements) := by
  induction statements with
  | nil => exact fun progress => .bind .get fun _ => .pure _
  | cons statement rest ih =>
    intro progress
    refine .bind (reports_runStatement database session progress statement) fun next => ?_
    -- a statement whose rows are shown is the last one
    rcases next with progress | response
    · exact ih progress
    · exact .pure _

/-- **In a cell, the status goes through the answers to its statements.** -/
theorem reports_runCell (sql : String) : Reports database (runCell database sql) :=
  .bind (reports_ensureConnected database) fun session =>
    .bind .get fun _ => reports_runStatements database session _ _

end Action

end SqlNotebook
