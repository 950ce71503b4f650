/-
SqlNotebook/Proofs/Notebook/Broken.lean

What has been sent when a run fails because of a broken macro.  The statements of a
cell are read one after the other, each behind the answer to the one before, so a macro
that is broken is met when everything in front of it has been sent:

    run  =  a broken macro   →   sent  =  what is due in front of it

Nothing has been sent if nothing is due there, in particular if the macro is called by
the line itself.  Apart from a cell, no instruction reads macros of its own; there, and
where a connection is opened, such an error can only be what the database has replied
(`Database.Relays`), and then it comes from the last call.
-/
import SqlNotebook.Proofs.FanOut.Turns
import SqlNotebook.Proofs.Notebook.Cutoff

namespace SqlNotebook

/-- Whether an error is about a broken macro. -/
def Error.isStructural : Error → Bool
  | structural .. => true
  | _ => false

/-- Whether a call is about a statement: it has it described or run. -/
def Call.isStatement : Call → Bool
  | prepare .. => true
  | execute .. => true
  | fetch .. => true
  | _ => false

/-! ### Errors that the database replies -/

/-- Calls have been made, and if the outcome is a broken macro, then because the database
has replied so to the last one. -/
def Database.Relays (database : Database) {α : Type} (before : History)
    (outcome : Except Error α) (after : History) : Prop :=
  ∃ calls, after = calls ++ before ∧
    ∀ error, outcome = .error error → error.isStructural →
      ∃ call earlier, calls = call :: earlier ∧
        database.reply (earlier ++ before) call = .error error

namespace Database.Relays

variable {database : Database} {α β : Type} {a b c : History}

theorem of_ok (value : α) (calls : List Call) :
    Relays database a (.ok value) (calls ++ a) :=
  ⟨calls, rfl, nofun⟩

theorem of_not_structural {error : Error} (herror : ¬ error.isStructural) (calls : List Call) :
    Relays database a (.error error : Except Error α) (calls ++ a) := by
  refine ⟨calls, rfl, ?_⟩
  rintro _ ⟨⟩ hstructural
  exact absurd hstructural herror

theorem of_reply (call : Call) (f : call.Reply → α) :
    Relays database a ((database.reply a call).map f) (call :: a) := by
  refine ⟨[call], rfl, fun error herror _ => ⟨call, [], rfl, ?_⟩⟩
  rcases hreply : database.reply a call with other | reply
  · rw [hreply] at herror
    obtain rfl : other = error := Except.error.inj herror
    exact hreply
  · rw [hreply] at herror
    cases herror

/-- What comes to pass behind a success. -/
theorem trans {value : α} {outcome : Except Error β} (hab : Relays database a (.ok value) b)
    (hbc : Relays database b outcome c) : Relays database a outcome c := by
  obtain ⟨earlier, rfl, -⟩ := hab
  obtain ⟨later, rfl, hreply⟩ := hbc
  refine ⟨later ++ earlier, (List.append_assoc _ _ _).symm, fun error herror hstructural => ?_⟩
  obtain ⟨call, others, rfl, hcall⟩ := hreply error herror hstructural
  exact ⟨call, others ++ earlier, rfl, by rwa [List.append_assoc]⟩

/-- The same failure of something else. -/
theorem of_error {error : Error} (h : Relays database a (.error error : Except Error α) b) :
    Relays database a (.error error : Except Error β) b := by
  obtain ⟨calls, hcalls, hreply⟩ := h
  refine ⟨calls, hcalls, ?_⟩
  rintro _ ⟨⟩
  exact hreply error rfl

end Database.Relays

/-- A conversation in which only the database reports a broken macro. -/
def Talk.Relays {α : Type} (database : Database) (talk : Talk α) : Prop :=
  ∀ history, database.Relays history (talk.run history).1 (talk.run history).2

namespace Talk.Relays

variable {database : Database} {α β : Type}

theorem pure (a : α) : Relays database (pure a : Talk α) :=
  fun _ => .of_ok a []

theorem throw {error : Error} (herror : ¬ error.isStructural) :
    Relays database (throw error : Talk α) :=
  fun _ => .of_not_structural herror []

theorem bind {talk : Talk α} {next : α → Talk β} (htalk : Relays database talk)
    (hnext : ∀ a, Relays database (next a)) : Relays database (talk >>= next) := by
  intro history
  have hrelays := htalk history
  rw [Talk.run_bind]
  rcases hrun : talk.run history with ⟨error | a, later⟩
  all_goals rw [hrun] at hrelays
  · exact hrelays.of_error
  · exact hrelays.trans (hnext a later)

theorem ask (call : Call) : Relays database (database.ask call) := by
  intro history
  have hreply : database.Relays history ((database.reply history call).map id)
      (call :: history) := .of_reply call id
  rwa [Except.map_id] at hreply

end Talk.Relays

namespace Database

variable (database : Database)

theorem relays_connect (source : Source) : Talk.Relays database (database.connect source) := by
  intro history
  rw [run_connect]
  exact .of_reply (.connect (.next source history)) _

theorem relays_prepare (session : Connection) (sql : String) :
    Talk.Relays database (database.prepare session sql) :=
  .bind (.ask (.prepare session sql)) fun _ => .pure _

end Database

namespace FanOut

variable (engine : Engine) (session : Connection) (source : Source) (request : Request)

theorem relays_validate : Talk.Relays engine.database (validate engine.database session request) := by
  rw [validate]
  rcases request.plan with rejection | plan
  · exact .throw Bool.false_ne_true
  · refine .bind (engine.database.relays_prepare session plan.sampleSql) fun statement => ?_
    by_cases hcolumns : statement.columns.isEmpty
    · rw [if_pos hcolumns]
      exact .bind (.throw Bool.false_ne_true) fun _ => .pure _
    · rw [if_neg hcolumns]
      exact .pure _

theorem relays_runSerial (queries : List String) :
    Talk.Relays engine.database (runSerial engine.database session queries) := by
  induction queries with
  | nil => exact .pure _
  | cons sql rest ih =>
    exact .bind (engine.database.relays_prepare session sql) fun statement =>
      .bind (.ask (.fetch session statement)) fun _ => .bind ih fun _ => .pure _

/-- The failure of a job is reported as the failure of a part. -/
theorem not_isStructural_partitionError (error : Error) : ¬ (partitionError error).isStructural := by
  rcases error with - | - | - | - | - | - | - | - | -
  all_goals exact Bool.false_ne_true

theorem relays_runParallel (places : Nat) (queries : List String) :
    Talk.Relays engine.database (runParallel engine source places queries) := by
  intro history
  let fleet := (Fleet.start queries history).turns engine.database source places
    (schedule engine queries.length)
  have hhistory : fleet.history = _ ++ history :=
    Fleet.history_turns (Fleet.start queries history) (schedule engine queries.length)
  show engine.database.Relays history fleet.result fleet.history
  rw [hhistory, Fleet.result]
  rcases fleet.failure with - | error
  · exact .of_ok _ _
  · exact .of_not_structural (not_isStructural_partitionError error) _

theorem relays_run : Talk.Relays engine.database (run engine session source request) := by
  refine .bind (relays_validate engine session request) fun plan => ?_
  dsimp only
  by_cases hfew : request.workers < minWorkers
  · rw [if_pos hfew]
    exact .bind (relays_runSerial engine session _) fun _ => .pure _
  · rw [if_neg hfew]
    exact relays_runParallel engine source _ _

end FanOut

/-! ### Instructions that are no cell -/

namespace Action

variable {α β : Type}

/-- An action in which only the database reports a broken macro. -/
def Relays (database : Database) (action : Action α) : Prop :=
  ∀ notebook, database.Relays notebook.history (action.run notebook).1
    (action.run notebook).2.history

namespace Relays

variable {database : Database}

theorem pure (a : α) : Relays database (pure a : Action α) :=
  fun _ => .of_ok a []

theorem throw {error : Error} (herror : ¬ error.isStructural) :
    Relays database (throw error : Action α) :=
  fun _ => .of_not_structural herror []

theorem get : Relays database (get : Action Notebook) :=
  fun _ => .of_ok _ []

theorem modify {change : Notebook → Notebook}
    (hhistory : ∀ notebook, (change notebook).history = notebook.history) :
    Relays database (modify change : Action Unit) := by
  intro notebook
  rw [run_modify, hhistory]
  exact .of_ok () []

theorem ofTalk {talk : Talk α} (htalk : Talk.Relays database talk) :
    Relays database (ofTalk talk) :=
  fun notebook => htalk notebook.history

theorem bind {action : Action α} {next : α → Action β} (haction : Relays database action)
    (hnext : ∀ a, Relays database (next a)) : Relays database (action >>= next) := by
  intro notebook
  have hrelays := haction notebook
  rw [run_bind]
  rcases hrun : action.run notebook with ⟨error | a, changed⟩
  all_goals rw [hrun] at hrelays
  · exact hrelays.of_error
  · exact hrelays.trans (hnext a changed)

/-- What has been attempted has not failed. -/
theorem attempt {action : Action α} (haction : Relays database action) :
    Relays database (attempt action) := by
  intro notebook
  obtain ⟨calls, hcalls, -⟩ := haction notebook
  rw [run_attempt]
  dsimp only
  rw [hcalls]
  exact .of_ok _ _

end Relays

variable (database : Database)

theorem relays_record (error : Error) : Relays database (record error) :=
  .modify fun _ => rfl

theorem relays_saveSettings : Relays database saveSettings := by
  intro notebook
  rw [saveSettings, run_bind, run_get]
  dsimp only
  rcases notebook.store with - | text | -
  · exact .of_ok () []
  · exact .of_ok () []
  · exact .of_not_structural (by decide) []

theorem relays_settleSource : Relays database settleSource := by
  intro notebook
  rw [settleSource, run_bind, run_get]
  dsimp only
  rcases notebook.source with - | source
  · rcases notebook.settings.databaseUrl with - | url
    · exact .of_not_structural (by decide) []
    · exact .of_ok _ []
  · exact .of_ok _ []

theorem relays_ensureConnected : Relays database (ensureConnected database) := by
  refine .bind .get fun notebook => ?_
  rcases notebook.session with - | session
  · exact .bind (relays_settleSource database) fun source =>
      .bind (.ofTalk (database.relays_connect source)) fun _ =>
        .bind (.modify fun _ => rfl) fun _ => .pure _
  · exact .pure _

theorem relays_disconnect : Relays database (disconnect database) := by
  refine .bind .get fun notebook => ?_
  rcases notebook.session with - | session
  · exact .pure _
  · exact .bind (.modify fun _ => rfl) fun _ => .ofTalk (.ask (.close session))

theorem relays_remember (url : String) : Relays database (remember url) :=
  .bind (.modify fun _ => rfl) fun _ => relays_saveSettings database

theorem relays_forget : Relays database forget :=
  .bind (.modify fun _ => rfl) fun _ => relays_saveSettings database

theorem relays_connect (url : Option String) : Relays database (connect database url) := by
  have hconnect : Relays database (do disconnect database; let _ ← ensureConnected database) :=
    .bind (relays_disconnect database) fun _ =>
      .bind (relays_ensureConnected database) fun _ => .pure _
  rcases url with - | url
  · exact hconnect
  · exact .bind (relays_remember database url) fun _ => hconnect

theorem relays_transact {request : Connection → Talk Unit}
    (hrequest : ∀ session, Talk.Relays database (request session)) :
    Relays database (transact request) := by
  refine .bind .get fun notebook => ?_
  rcases notebook.session with - | session
  · exact .pure _
  · refine .bind (.attempt (.ofTalk (hrequest session))) fun reply => ?_
    rcases reply with error | -
    · exact .bind (relays_record database error) fun _ => .pure _
    · exact .pure _

theorem relays_setOptions (words : List String) : Relays database (setOptions words) := by
  refine .bind .get fun notebook => .bind (.modify fun _ => rfl) fun _ => ?_
  by_cases hchanged : (notebook.settings.applyOptions words).changed
  · rw [if_pos hchanged]
    exact .bind (relays_saveSettings database) fun _ => .pure _
  · rw [if_neg hchanged]
    exact .pure _

theorem relays_define (name : String) (body : Option String) (size : Nat) :
    Relays database (define name body size) := by
  rcases body with - | body
  · exact .throw Bool.false_ne_true
  · exact .bind (.modify fun _ => rfl) fun _ => .pure _

theorem relays_present (table : ResultTable) : Relays database (present table) := by
  refine .bind (.modify fun notebook => ?_) fun _ => .bind .get fun _ => .pure _
  rw [Notebook.noteSize]
  split
  · rfl
  · rfl

theorem not_isStructural_fanOut? {notebook : Notebook} {name query : String} {error : Error}
    (hfanOut : notebook.fanOut? name query = .error error) : ¬ error.isStructural := by
  rw [Notebook.fanOut?] at hfanOut
  split at hfanOut
  · cases hfanOut
    exact Bool.false_ne_true
  · cases hfanOut

variable (engine : Engine)

theorem relays_runUsing (name query : String) :
    Relays engine.database (runUsing engine name query) := by
  refine .bind (relays_ensureConnected engine.database) fun session =>
    .bind (relays_settleSource engine.database) fun source => .bind .get fun notebook =>
      .bind ?_ fun request => ?_
  · intro later
    rw [run_ofExcept]
    rcases hfanOut : notebook.fanOut? name query with error | request
    · exact .of_not_structural (not_isStructural_fanOut? hfanOut) []
    · exact .of_ok _ []
  · intro notebook
    have hrelays := FanOut.relays_run engine session source request notebook.history
    rw [run_bind, run_attempt, run_ofTalk]
    dsimp only
    rcases hrun : (FanOut.run engine session source request).run notebook.history with
      ⟨error | report, later⟩
    all_goals rw [hrun] at hrelays
    · -- the failure that has been attempted is recorded and reported as it is
      exact hrelays.of_error
    · refine hrelays.trans (Relays.bind .get (fun later => ?_) { notebook with history := later })
      exact .bind (relays_present engine.database report.table) fun _ => .pure _

/-- Carrying out anything but SQL. -/
theorem relays_perform (text : String) (body : Option String) {instruction : Instruction}
    (hinstruction : ∀ sql, instruction ≠ .sql sql) :
    Relays engine.database (perform engine text body instruction) := by
  rcases instruction with name | words | url | unsettle | - | - | on | ⟨name, query⟩ | - | sql
  · exact relays_define engine.database name body _
  · exact relays_setOptions engine.database words
  · exact .bind (relays_connect engine.database url) fun _ => .pure _
  · refine .bind (relays_disconnect engine.database) fun _ => ?_
    cases unsettle with
    | true => exact .bind (relays_forget engine.database) fun _ => .pure _
    | false => exact .pure _
  · exact .bind (relays_transact engine.database fun session => .ask (.commit session))
      fun _ => .pure _
  · exact .bind (relays_transact engine.database fun session => .ask (.rollback session))
      fun _ => .pure _
  · exact .bind (relays_transact engine.database fun session => .ask (.setAutocommit session on))
      fun _ => .pure _
  · exact relays_runUsing engine name query
  · exact .pure _
  · exact absurd rfl (hinstruction sql)

end Action

/-! ### Cells -/

/-- A statement that is sent is described first, and one that is run has its answer. -/
theorem Database.not_isStatement_of_unanswered {database : Database} {before : History}
    {calls : List Call} (hprepared : calls.filterMap Call.prepared? = [])
    (hanswers : database.answers before calls = []) : ∀ call ∈ calls, ¬ call.isStatement := by
  rw [List.filterMap_eq_nil_iff] at hprepared
  induction calls with
  | nil => exact nofun
  | cons call calls ih =>
    rw [answers, collect, List.append_eq_nil_iff] at hanswers
    rw [List.forall_mem_cons] at hprepared ⊢
    obtain ⟨⟨hcall, hcalls⟩, hanswer, hearlier⟩ := And.intro hprepared hanswers
    refine ⟨?_, ih hcalls hearlier⟩
    cases call with
    | prepare => cases hcall
    | execute => cases hanswer
    | fetch => cases hanswer
    | connect | setAutocommit | commit | rollback | close => exact Bool.false_ne_true

namespace Notebook.Exchanged

variable {database : Database} {session : Connection} {calls : List Call}
  {exchanges : List Exchange} {a b : Notebook}

/-- Nothing has been sent if no call has been about a statement. -/
theorem forall_not_isStatement_iff (h : Exchanged database session calls exchanges a b) :
    (∀ call ∈ calls, ¬ call.isStatement) ↔ exchanges = [] := by
  constructor
  · intro hcalls
    have hprepared : calls.filterMap Call.prepared? = [] := by
      refine List.filterMap_eq_nil_iff.mpr fun call hcall => ?_
      cases call with
      | prepare => exact absurd rfl (hcalls _ hcall)
      | connect | execute | fetch | setAutocommit | commit | rollback | close => rfl
    rw [h.prepared, List.reverse_eq_nil_iff, List.map_eq_nil_iff] at hprepared
    exact hprepared
  · rintro rfl
    exact Database.not_isStatement_of_unanswered h.prepared h.answers

end Notebook.Exchanged

namespace Action

variable {database : Database} {notebook linked : Notebook} {session : Connection}

/-- A cell is that of the notebook with a connection. -/
theorem run_runCell_of_connected
    (hrun : (ensureConnected database).run notebook = (.ok session, linked))
    (hsession : linked.session = some session) (sql : String) :
    (runCell database sql).run notebook = (runCell database sql).run linked := by
  have hlinked : (ensureConnected database).run linked = (.ok session, linked) := by
    rw [ensureConnected, run_bind, run_get]
    dsimp only
    rw [hsession]
    rfl
  rw [runCell, run_bind, run_bind, hrun, hlinked]

/-- What a cell has sent that fails because of a broken macro. -/
theorem run_runCell_of_structural (database : Database) (notebook : Notebook) (sql : String)
    {error : Error} (hfailed : ((runCell database sql).run notebook).1 = .error error)
    (hstructural : error.isStructural) :
    ∃ calls, ((runCell database sql).run notebook).2.history = calls ++ notebook.history ∧
      ((∃ call earlier, calls = call :: earlier ∧
          database.reply (earlier ++ notebook.history) call = .error error) ∨
        (notebook.dueCell sql).2 = some error ∧
          (calls.filterMap Call.prepared?).reverse = (notebook.dueCell sql).1.map (·.sql) ∧
          ((∀ call ∈ calls, ¬ call.isStatement) ↔ (notebook.dueCell sql).1 = [])) := by
  have hrelays := relays_ensureConnected database notebook
  rcases hrun : (ensureConnected database).run notebook with ⟨other | session, linked⟩
  · rw [hrun] at hrelays
    have hcell : (runCell database sql).run notebook = (.error other, linked) := by
      rw [runCell, run_bind, hrun]
    rw [hcell] at hfailed ⊢
    obtain rfl : other = error := Except.error.inj hfailed
    obtain ⟨calls, hcalls, hreply⟩ := hrelays
    exact ⟨calls, hcalls, .inl (hreply other rfl hstructural)⟩
  · obtain ⟨source, connecting, hlinked, hconnecting⟩ := run_ensureConnected_of_ok hrun
    have hsession : linked.session = some session := by rw [hlinked]
    have hdue : linked.dueCell sql = notebook.dueCell sql := by
      rw [hlinked]
      rfl
    rw [run_runCell_of_connected hrun hsession] at hfailed ⊢
    obtain ⟨calls, exchanges, hexchanged, hcell⟩ := run_runCell database hsession sql
    rw [hdue] at hcell
    generalize notebook.dueCell sql = due at hcell ⊢
    have hsent := hconnecting.trans hexchanged
    rw [List.nil_append] at hsent
    refine ⟨calls ++ connecting, hsent.history, .inr ?_⟩
    rcases hcell.shown_or_all with ⟨-, -, response, -, -, hok, -⟩ | ⟨-, hall, hresult⟩
    · rw [hok] at hfailed
      cases hfailed
    · obtain ⟨sendings, broken⟩ := due
      rcases broken with - | broken
      · obtain ⟨response, hok, -⟩ := hresult
        rw [hok] at hfailed
        cases hfailed
      · rw [hresult] at hfailed
        obtain rfl := Except.error.inj hfailed
        refine ⟨rfl, ?_, ?_⟩
        · rw [hsent.prepared, List.reverse_reverse, ← hall, List.map_map]
          rfl
        · rw [hsent.forall_not_isStatement_iff, ← hall, List.map_eq_nil_iff]

end Action

/-! ### Runs -/

namespace Notebook

/-- What is due when a line has been read. -/
def dueEntry (body : Option String) : Entry × Notebook → List Sending × Option Error
  | (.failed error, _) => ([], some error)
  | (.asks _ (.sql sql) _, ready) => ready.dueCell (if sql = "" then body.getD "" else sql)
  | _ => ([], none)

/-- What an instruction has to send as SQL, up to what cannot be read, and the error
there. -/
def dueRun (notebook : Notebook) (line : String) (body : Option String) :
    List Sending × Option Error :=
  dueEntry (givenBody body) (notebook.entry line (givenBody body))

theorem perform_of_structural (engine : Engine) (body : Option String)
    (entered : Entry × Notebook) {error : Error}
    (hfailed : (perform engine body entered).1 = .error error)
    (hstructural : error.isStructural) :
    ∃ calls, (perform engine body entered).2.history = calls ++ entered.2.history ∧
      ((∃ call earlier, calls = call :: earlier ∧
          engine.database.reply (earlier ++ entered.2.history) call = .error error) ∨
        (dueEntry body entered).2 = some error ∧
          (calls.filterMap Call.prepared?).reverse = (dueEntry body entered).1.map (·.sql) ∧
          ((∀ call ∈ calls, ¬ call.isStatement) ↔ (dueEntry body entered).1 = [])) := by
  obtain ⟨other | response | ⟨text, instruction, notices⟩, ready⟩ := entered
  · obtain rfl : other = error := Except.error.inj hfailed
    exact ⟨[], rfl, .inr ⟨rfl, rfl, iff_of_true nofun rfl⟩⟩
  · cases hfailed
  · -- only a failure is left as it is by the notices that are put in front
    have houtcome : ((Action.perform engine text body instruction).run ready).1 =
        .error error := by
      change ((Action.perform engine text body instruction).run ready).1.map _ = _ at hfailed
      rcases hrun : ((Action.perform engine text body instruction).run ready).1 with other | response
      all_goals rw [hrun] at hfailed
      · exact congrArg Except.error (Except.error.inj hfailed)
      · cases hfailed
    by_cases hsql : ∃ sql, instruction = .sql sql
    · obtain ⟨sql, rfl⟩ := hsql
      exact Action.run_runCell_of_structural engine.database ready _ houtcome hstructural
    · have hother : ∀ sql, instruction ≠ .sql sql := fun sql h => hsql ⟨sql, h⟩
      obtain ⟨calls, hcalls, hreply⟩ := Action.relays_perform engine text body hother ready
      exact ⟨calls, hcalls, .inl (hreply error houtcome hstructural)⟩

/-- **What has been sent when a macro is broken.**  If an instruction fails because of a
broken macro, and the database has not replied so to the last call, then what is due ends
with that error.  The statements that have been sent are those that are due in front of
it, so no call has been about a statement exactly if none is due there. -/
theorem run_broken (engine : Engine) (notebook : Notebook) (line : String) (body : Option String)
    (message instruction : String)
    (hbroken : (notebook.run engine line body).1 = .error (.structural message instruction)) :
    ∃ calls, (notebook.run engine line body).2.history = calls ++ notebook.history ∧
      ((∃ call earlier, calls = call :: earlier ∧
          engine.database.reply (earlier ++ notebook.history) call =
            .error (.structural message instruction)) ∨
        (notebook.dueRun line body).2 = some (.structural message instruction) ∧
          (calls.filterMap Call.prepared?).reverse = (notebook.dueRun line body).1.map (·.sql) ∧
          ((∀ call ∈ calls, ¬ call.isStatement) ↔ (notebook.dueRun line body).1 = [])) := by
  obtain ⟨flags, hkeeps⟩ := notebook.entry_keeps line (givenBody body)
  have hhistory : (notebook.entry line (givenBody body)).2.history = notebook.history := by
    rw [hkeeps]
  rw [run_eq_perform] at hbroken ⊢
  rw [dueRun, ← hhistory]
  exact perform_of_structural engine (givenBody body) _ hbroken rfl

/-- The error of an outcome. -/
def failure? : Except Error Response → Option Error
  | .error error => some error
  | .ok _ => none

theorem eq_error_of_failure? {outcome : Except Error Response} {error : Error}
    (h : failure? outcome = some error) : outcome = .error error := by
  rcases outcome with other | response
  · exact congrArg Except.error (Option.some.inj h)
  · cases h

/-- A connected notebook with a macro whose body is broken. -/
def withBroken : Notebook :=
  linked.define "broken" "endif"

/-- A statement in front of a call of that macro. -/
def brokenBody : String :=
  "DELETE FROM FOUND; broken"

/-- The calls for that body. -/
theorem history_brokenBody :
    (withBroken.run lossy "" (some brokenBody)).2.history =
      [.execute ⟨.given, 1⟩ ⟨"DELETE FROM FOUND", []⟩,
        .prepare ⟨.given, 1⟩ "DELETE FROM FOUND"] := by
  decide +kernel

theorem run_broken_brokenBody :
    (withBroken.run lossy "" (some brokenBody)).1 =
        .error (.structural "Unmatched if/endif pairs." "broken") ∧
      ∃ calls, (withBroken.run lossy "" (some brokenBody)).2.history =
          calls ++ [] ∧
        (calls.filterMap Call.prepared?).reverse = ["DELETE FROM FOUND"] := by
  have hbroken : (withBroken.run lossy "" (some brokenBody)).1 =
      .error (.structural "Unmatched if/endif pairs." "broken") :=
    eq_error_of_failure? (by decide +kernel)
  have hdue : (withBroken.dueRun "" (some brokenBody)).1 = [⟨"DELETE FROM FOUND", []⟩] := by
    decide +kernel
  obtain ⟨calls, hhistory, ⟨call, earlier, rfl, hreply⟩ | ⟨-, hsent, -⟩⟩ :=
    run_broken lossy withBroken "" (some brokenBody) _ _ hbroken
  · -- the last call has the statement run, which does not fail
    obtain rfl := (List.cons.inj (hhistory.symm.trans history_brokenBody)).1
    have hok : (lossy.database.reply [] (.execute ⟨.given, 1⟩ ⟨"DELETE FROM FOUND", []⟩)).isOk := by
      decide +kernel
    change lossy.database.reply [] _ = _ at hreply
    rw [hreply] at hok
    cases hok
  · rw [hdue] at hsent
    exact ⟨hbroken, calls, hhistory, hsent⟩

/-- A broken macro does not keep the statements in front of it from being run. -/
theorem run_sends_before_broken :
    ¬ ∀ (engine : Engine) (notebook : Notebook) (line : String) (body : Option String)
        (message instruction : String) (calls : List Call),
      (notebook.run engine line body).1 = .error (.structural message instruction) →
      (notebook.run engine line body).2.history = calls ++ notebook.history →
      ∀ call ∈ calls, ¬ call.isStatement := by
  intro hnothing
  have hexecute := hnothing lossy withBroken "" (some brokenBody)
    "Unmatched if/endif pairs." "broken" _ (eq_error_of_failure? (by decide +kernel))
    (history_brokenBody.trans (List.append_nil _).symm) _ List.mem_cons_self
  exact hexecute rfl

end Notebook

end SqlNotebook
