/-
SqlNotebook/Proofs/Notebook/Ownership.lean

Whose connection a notebook has open.  Connections lead where the notebook's connector
says, and the open one should lead there too: the query of a fan-out is checked on the
open connection, and its jobs ask the connector for connections of their own.

A notebook is anchored if this is so because the source has been settled.  That holds
while no connection is open, and nearly all that is done to a notebook preserves it,
whether it fails or not: who opens a connection settles the source, and who changes the
source closes the connection.  There is one exception.  `CONNECT` with a URL changes the
source first, and if the settings cannot be saved, it ends there:

    anchored  →  run  →  anchored, or the connection has been orphaned
-/
import SqlNotebook.Proofs.FanOut.Connections
import SqlNotebook.Proofs.Notebook.Saved

namespace SqlNotebook

variable {α β : Type}

namespace Database

variable {database : Database} {connection : Connection}

/-- What has been opened stays among what has been opened. -/
theorem mem_opened_append {history : History} (h : connection ∈ database.opened [] history)
    (calls : List Call) : connection ∈ database.opened [] (calls ++ history) := by
  rw [opened, collect_append]
  exact List.mem_append_right _ h

/-- A connection that has been asked for and not been refused has been opened. -/
theorem mem_opened_connect {history : History}
    (hreply : database.reply history (.connect connection) = .ok ()) :
    connection ∈ database.opened [] (.connect connection :: history) := by
  rw [opened, collect, List.append_nil, opened?, hreply]
  exact List.mem_cons_self

end Database

namespace Notebook

/-- Where a connection leads that is opened now, if that is known. -/
def connector (notebook : Notebook) : Except Error Source :=
  (Action.settleSource.run notebook).1

/-- If a connection is open, then it has been opened, and the connector still leads where
it leads. -/
def Belongs (database : Database) (notebook : Notebook) : Prop :=
  ∀ session, notebook.session = some session →
    session ∈ database.opened [] notebook.history ∧ notebook.connector = .ok session.source

/-- The same, because the source has been settled. -/
def Anchored (database : Database) (notebook : Notebook) : Prop :=
  ∀ session, notebook.session = some session →
    session ∈ database.opened [] notebook.history ∧ notebook.source = some session.source

/-- Notebooks with the same connection, the same source and the same calls. -/
structure SameConnection (before after : Notebook) : Prop where
  session : after.session = before.session
  source : after.source = before.source
  history : after.history = before.history

/-- All that has been called from one point to a later one is about where the source leads in
the end. -/
def CallsSource (before later : Notebook) : Prop :=
  ∃ calls, later.history = calls ++ before.history ∧
    ∀ call ∈ calls, later.source = some call.connection.source

variable {database : Database} {notebook later : Notebook}

theorem CallsSource.of_history_eq (h : later.history = notebook.history) :
    notebook.CallsSource later :=
  ⟨[], h, List.forall_mem_nil _⟩

/-- One call. -/
theorem CallsSource.of_call {call : Call} (hhistory : later.history = call :: notebook.history)
    (hsource : later.source = some call.connection.source) : notebook.CallsSource later :=
  ⟨[call], hhistory, List.forall_mem_singleton.mpr hsource⟩

/-- More calls, after which the source is the same. -/
theorem CallsSource.more {linked : Notebook} (h : notebook.CallsSource linked)
    (hmore : linked.CallsSource later) (hsource : later.source = linked.source) :
    notebook.CallsSource later := by
  obtain ⟨calls, hcalls, habout⟩ := h
  obtain ⟨more, hhistory, hmoreAbout⟩ := hmore
  rw [← hsource] at habout
  refine ⟨more ++ calls, ?_, List.forall_mem_append.mpr ⟨hmoreAbout, habout⟩⟩
  rw [hhistory, hcalls, List.append_assoc]

theorem run_settleSource_of_source {source : Source} (h : notebook.source = some source) :
    Action.settleSource.run notebook = (.ok source, notebook) := by
  rw [Action.settleSource, Action.run_bind, Action.run_get]
  dsimp only
  rw [h]
  rfl

theorem connector_of_source {source : Source} (h : notebook.source = some source) :
    notebook.connector = .ok source := by
  rw [connector, run_settleSource_of_source h]

theorem Anchored.belongs (h : notebook.Anchored database) : notebook.Belongs database :=
  fun session hsession => ⟨(h session hsession).1, connector_of_source (h session hsession).2⟩

variable (database) in
theorem anchored_of_session_eq_none (h : notebook.session = none) :
    notebook.Anchored database := by
  intro session hsession
  rw [h] at hsession
  cases hsession

/-- More calls do not matter. -/
theorem Anchored.of_calls (h : notebook.Anchored database) (calls : List Call)
    (hsession : later.session = notebook.session) (hsource : later.source = notebook.source)
    (hhistory : later.history = calls ++ notebook.history) : later.Anchored database := by
  intro session hopen
  rw [hsession] at hopen
  obtain ⟨hopened, hleads⟩ := h session hopen
  rw [hhistory, hsource]
  exact ⟨Database.mem_opened_append hopened calls, hleads⟩

theorem Anchored.of_same (h : notebook.Anchored database) (hsame : SameConnection notebook later) :
    later.Anchored database :=
  h.of_calls [] hsame.session hsame.source hsame.history

end Notebook

namespace Action

/-! ### Actions that leave the connection alone -/

/-- An action that leaves the connection and the source alone and calls nothing. -/
def LeavesConnection (action : Action α) : Prop :=
  ∀ notebook, Notebook.SameConnection notebook (action.run notebook).2

namespace LeavesConnection

theorem pure (a : α) : LeavesConnection (pure a : Action α) :=
  fun _ => ⟨rfl, rfl, rfl⟩

theorem throw (error : Error) : LeavesConnection (throw error : Action α) :=
  fun _ => ⟨rfl, rfl, rfl⟩

theorem get : LeavesConnection (get : Action Notebook) :=
  fun _ => ⟨rfl, rfl, rfl⟩

theorem ofExcept (outcome : Except Error α) : LeavesConnection (ofExcept outcome) :=
  fun _ => ⟨rfl, rfl, rfl⟩

theorem modify {change : Notebook → Notebook}
    (h : ∀ notebook, Notebook.SameConnection notebook (change notebook)) :
    LeavesConnection (modify change : Action Unit) :=
  h

theorem bind {action : Action α} {next : α → Action β} (haction : LeavesConnection action)
    (hnext : ∀ a, LeavesConnection (next a)) : LeavesConnection (action >>= next) := by
  intro notebook
  apply run_bind_keeps notebook (Notebook.SameConnection notebook) (haction notebook)
  intro a changed hfirst
  have hsecond := hnext a changed
  exact ⟨hsecond.session.trans hfirst.session, hsecond.source.trans hfirst.source,
    hsecond.history.trans hfirst.history⟩

end LeavesConnection

theorem leavesConnection_record (error : Error) : LeavesConnection (record error) :=
  .modify fun _ => ⟨rfl, rfl, rfl⟩

theorem leavesConnection_saveSettings : LeavesConnection saveSettings := by
  intro notebook
  rw [saveSettings, run_bind, run_get]
  dsimp only
  rcases notebook.store with - | text | -
  · exact ⟨rfl, rfl, rfl⟩
  · exact ⟨rfl, rfl, rfl⟩
  · exact ⟨rfl, rfl, rfl⟩

theorem leavesConnection_define (name : String) (body : Option String) (size : Nat) :
    LeavesConnection (define name body size) := by
  rcases body with - | body
  · exact .throw _
  · exact .bind (.modify fun _ => ⟨rfl, rfl, rfl⟩) fun _ => .pure _

theorem leavesConnection_setOptions (words : List String) :
    LeavesConnection (setOptions words) := by
  refine .bind .get fun notebook => .bind (.modify fun _ => ⟨rfl, rfl, rfl⟩) fun _ => ?_
  dsimp only
  split
  · exact .bind leavesConnection_saveSettings fun _ => .pure _
  · exact .pure _

theorem leavesConnection_present (table : ResultTable) : LeavesConnection (present table) := by
  refine .bind (.modify fun notebook => ?_) fun _ => .bind .get fun _ => .pure _
  rw [Notebook.noteSize]
  split
  · exact ⟨rfl, rfl, rfl⟩
  · exact ⟨rfl, rfl, rfl⟩

theorem leavesConnection_readStatement (statement : String) :
    LeavesConnection (readStatement statement) := by
  have hexpand : LeavesConnection (expand statement) := .bind .get fun _ => .ofExcept _
  refine .bind hexpand fun expansion => ?_
  by_cases hexited : expansion.exited
  · rw [if_pos hexited]
    exact .pure _
  · rw [if_neg hexited]
    have hflags : LeavesConnection (takeFlags expansion.text) :=
      .bind (.modify fun _ => ⟨rfl, rfl, rfl⟩) fun _ => .pure _
    exact .bind hflags fun _ => .bind .get fun _ => .pure _

/-! ### Actions that keep a notebook anchored -/

/-- An action behind which an anchored notebook is anchored, also if it fails. -/
def StaysAnchored (database : Database) (action : Action α) : Prop :=
  ∀ notebook : Notebook, notebook.Anchored database → (action.run notebook).2.Anchored database

namespace StaysAnchored

variable {database : Database}

theorem of_leaves {action : Action α} (h : LeavesConnection action) :
    StaysAnchored database action :=
  fun notebook hanchored => hanchored.of_same (h notebook)

theorem ofTalk {Kind : Call → Prop} {talk : Talk α} (h : talk.Makes Kind) :
    StaysAnchored database (ofTalk talk) := by
  intro notebook hanchored
  obtain ⟨calls, hcalls, -⟩ := h notebook.history
  exact hanchored.of_calls calls rfl rfl hcalls

theorem attempt {action : Action α} (h : StaysAnchored database action) :
    StaysAnchored database (attempt action) :=
  h

theorem bind {action : Action α} {next : α → Action β} (haction : StaysAnchored database action)
    (hnext : ∀ a, StaysAnchored database (next a)) : StaysAnchored database (action >>= next) := by
  intro notebook hanchored
  exact run_bind_keeps notebook (·.Anchored database) (haction notebook hanchored) hnext

end StaysAnchored

variable (database : Database)

/-! ### The connection -/

/-- To settle the source changes nothing else. -/
theorem run_settleSource (notebook : Notebook) :
    ∃ known, (settleSource.run notebook).2 = { notebook with source := known } ∧
      (∀ source, notebook.source = some source → known = some source) ∧
      ∀ source, (settleSource.run notebook).1 = .ok source → known = some source := by
  rw [settleSource, run_bind, run_get]
  dsimp only
  rcases hsource : notebook.source with - | source
  · rcases notebook.settings.databaseUrl with - | url
    · refine ⟨notebook.source, rfl, fun _ h => hsource.trans h, ?_⟩
      rintro _ ⟨⟩
    · refine ⟨some (.url url), rfl, ?_, ?_⟩
      · rintro _ ⟨⟩
      · rintro _ ⟨⟩
        rfl
  · refine ⟨notebook.source, rfl, fun _ h => hsource.trans h, ?_⟩
    rintro _ ⟨⟩
    exact hsource

theorem staysAnchored_settleSource : StaysAnchored database settleSource := by
  intro notebook hanchored
  obtain ⟨known, hsettled, hkeeps, -⟩ := run_settleSource notebook
  rw [hsettled]
  intro session hsession
  obtain ⟨hopened, hleads⟩ := hanchored session hsession
  exact ⟨hopened, hkeeps session.source hleads⟩

/-- **Who opens a connection settles the source**: behind it the notebook is anchored, and
whatever has been called is about where the source leads. -/
theorem ensureConnected_anchored {notebook : Notebook} (h : notebook.Anchored database) :
    let ended := (ensureConnected database).run notebook
    ended.2.Anchored database ∧ notebook.CallsSource ended.2 ∧
      ∀ session, ended.1 = .ok session → ended.2.session = some session := by
  rw [ensureConnected, run_bind, run_get]
  dsimp only
  rcases hsession : notebook.session with - | opened
  · -- the source is settled first, and then it is asked for a connection
    dsimp only
    rw [run_bind]
    obtain ⟨known, hsettled, -, hknown⟩ := run_settleSource notebook
    have hanchored := staysAnchored_settleSource database notebook h
    rcases hrun : settleSource.run notebook with ⟨error | source, settled⟩
    all_goals
      rw [hrun] at hsettled hknown hanchored
      obtain rfl : settled = { notebook with source := known } := hsettled
    · exact ⟨hanchored, .of_history_eq rfl, nofun⟩
    · obtain rfl : known = some source := hknown source rfl
      dsimp only
      rw [run_bind, run_ofTalk, Database.run_connect]
      dsimp only
      rcases hreply : database.reply notebook.history (.connect (.next source notebook.history))
        with error | ⟨⟩
      · -- nothing has been opened, but where to has been settled
        exact ⟨Notebook.anchored_of_session_eq_none _ hsession, .of_call rfl rfl, nofun⟩
      · refine ⟨?_, .of_call rfl rfl, ?_⟩
        · rintro _ ⟨⟩
          exact ⟨Database.mem_opened_connect hreply, rfl⟩
        · rintro _ ⟨⟩
          rfl
  · refine ⟨h, .of_history_eq rfl, ?_⟩
    rintro _ ⟨⟩
    exact hsession

theorem staysAnchored_ensureConnected : StaysAnchored database (ensureConnected database) :=
  fun _ hanchored => (ensureConnected_anchored database hanchored).1

/-- Who closes the connection has none. -/
theorem session_disconnect (notebook : Notebook) :
    ((disconnect database).run notebook).2.session = none := by
  rw [disconnect, run_bind, run_get]
  dsimp only
  rcases hsession : notebook.session with - | session
  · exact hsession
  · dsimp only
    rw [run_bind, run_modify]
    rfl

/-- Whatever the source is now, who closes the connection and opens another one is anchored. -/
theorem anchored_reconnect (notebook : Notebook) :
    ((do disconnect database; let _ ← ensureConnected database : Action Unit).run
      notebook).2.Anchored database := by
  -- without a connection, nothing has to fit the source
  have hclosed := Notebook.anchored_of_session_eq_none database
    (session_disconnect database notebook)
  have hopen : StaysAnchored database (do let _ ← ensureConnected database : Action Unit) :=
    .bind (staysAnchored_ensureConnected database) fun _ => .of_leaves (.pure _)
  exact run_bind_keeps notebook (·.Anchored database) hclosed fun _ => hopen

/-! ### Statements and fan-outs -/

theorem staysAnchored_transact {request : Connection → Talk Unit}
    (h : ∀ session, (request session).Makes fun _ => True) :
    StaysAnchored database (transact request) := by
  refine .bind (.of_leaves .get) fun notebook => ?_
  rcases notebook.session with - | session
  · exact .of_leaves (.pure _)
  · refine .bind (.attempt (.ofTalk (h session))) fun reply => ?_
    rcases reply with error | -
    · exact .of_leaves (.bind (leavesConnection_record error) fun _ => .pure _)
    · exact .of_leaves (.pure _)

theorem makes_send (session : Connection) (sql : String) :
    Talk.Makes (·.connection = session) (database.send session sql) := by
  intro history
  obtain ⟨calls, hcalls, -, -, habout, -⟩ := database.answers_send session sql history
  exact ⟨calls, hcalls, habout⟩

theorem staysAnchored_runStatement (session : Connection) (progress : Progress)
    (statement : String) :
    StaysAnchored database (runStatement database session progress statement) := by
  refine .bind (.of_leaves (leavesConnection_readStatement statement)) fun (notices, sql) => ?_
  rcases sql with - | sql
  · exact .of_leaves (.pure _)
  · refine .bind (.of_leaves .get) fun _ =>
      .bind (.attempt (.ofTalk (makes_send database session sql))) fun answer => .of_leaves ?_
    intro notebook
    obtain ⟨next, hrun⟩ := run_settle _ answer notebook
    rw [hrun]
    exact ⟨rfl, rfl, rfl⟩

theorem staysAnchored_runStatements (session : Connection) (statements : List String) :
    ∀ progress, StaysAnchored database (runStatements database session progress statements) := by
  induction statements with
  | nil => exact fun progress => .of_leaves (.bind .get fun _ => .pure _)
  | cons statement rest ih =>
    intro progress
    refine .bind (staysAnchored_runStatement database session progress statement) fun next => ?_
    -- a statement whose rows are shown is the last one
    rcases next with progress | response
    · exact ih progress
    · exact .of_leaves (.pure _)

theorem staysAnchored_runCell (sql : String) : StaysAnchored database (runCell database sql) :=
  .bind (staysAnchored_ensureConnected database) fun session =>
    .bind (.of_leaves .get) fun _ => staysAnchored_runStatements database session _ _

variable (engine : Engine)

/-- A conversation about where the source leads, and what is done behind it without a call. -/
theorem attempt_anchored {Kind : Call → Prop} {talk : Talk α} {next : Except Error α → Action β}
    (htalk : talk.Makes Kind) (hnext : ∀ ended, LeavesConnection (next ended))
    {notebook linked : Notebook} (h : linked.Anchored database)
    (hcalls : notebook.CallsSource linked)
    (hkind : ∀ call, Kind call → linked.source = some call.connection.source) :
    ((attempt (ofTalk talk) >>= next).run linked).2.Anchored database ∧
      notebook.CallsSource ((attempt (ofTalk talk) >>= next).run linked).2 := by
  obtain ⟨calls, hhistory, habout⟩ := htalk linked.history
  rw [run_bind, run_attempt, run_ofTalk]
  dsimp only
  have hsame := hnext (talk.run linked.history).1
    { linked with history := (talk.run linked.history).2 }
  have hlater := hsame.history.trans hhistory
  refine ⟨h.of_calls calls hsame.session hsame.source hlater, hcalls.more ?_ hsame.source⟩
  refine ⟨calls, hlater, fun call hcall => ?_⟩
  exact hsame.source.trans (hkind call (habout call hcall))

/-- **In a fan-out, all calls are about where the source leads**, if the notebook is anchored
when it begins: that the connection is opened, that the query is checked on it, and what the
jobs do with their own connections. -/
theorem runUsing_anchored {notebook : Notebook} (h : notebook.Anchored engine.database)
    (name query : String) :
    let ended := (runUsing engine name query).run notebook
    ended.2.Anchored engine.database ∧ notebook.CallsSource ended.2 := by
  obtain ⟨hlinked, hcalls, hsession⟩ := ensureConnected_anchored engine.database h
  rw [runUsing, run_bind]
  rcases hrun : (ensureConnected engine.database).run notebook with ⟨error | session, linked⟩
  all_goals rw [hrun] at hlinked hcalls hsession
  · exact ⟨hlinked, hcalls⟩
  · have hleads : linked.source = some session.source :=
      (hlinked session (hsession session rfl)).2
    dsimp only
    rw [run_bind, Notebook.run_settleSource_of_source hleads]
    dsimp only
    rw [run_bind, run_get]
    dsimp only
    rw [run_bind, run_ofExcept]
    rcases linked.fanOut? name query with error | request
    · exact ⟨hlinked, hcalls⟩
    · -- the jobs get the source to which the connection leads
      apply attempt_anchored engine.database
        (FanOut.makes_run_of_source engine session request) _ hlinked hcalls
      · intro call hcall
        rw [hcall]
        exact hleads
      · intro ended
        rcases ended with error | report
        · exact .bind (leavesConnection_record error) fun _ => .throw _
        · exact .bind .get fun _ =>
            .bind (leavesConnection_present report.table) fun _ => .pure _

/-! ### Instructions -/

/-- A URL that is remembered is the source from then on, even if it cannot be saved. -/
theorem run_remember (url : String) (notebook : Notebook) :
    let ended := (remember url).run notebook
    ended.2.session = notebook.session ∧ ended.2.source = some (.url url) ∧
      ended.2.history = notebook.history ∧
      ((∃ error, ended.1 = .error error) ↔ notebook.store = .blocked) := by
  rw [remember, run_bind, run_modify]
  dsimp only
  rw [saveSettings, run_bind, run_get]
  dsimp only
  rcases notebook.store with - | text | -
  · refine ⟨rfl, rfl, rfl, ?_, ?_⟩
    · rintro ⟨_, ⟨⟩⟩
    · rintro ⟨⟩
  · refine ⟨rfl, rfl, rfl, ?_, ?_⟩
    · rintro ⟨_, ⟨⟩⟩
    · rintro ⟨⟩
  · exact ⟨rfl, rfl, rfl, fun _ => rfl, fun _ => ⟨_, rfl⟩⟩

/-- A notebook that connects stays anchored, unless the connection is orphaned. -/
theorem anchored_connect {notebook : Notebook} (h : notebook.Anchored engine.database)
    (url : Option String)
    (hkept : ∀ link session, url = some link → notebook.store = .blocked →
      notebook.session = some session → session.source = .url link) :
    ((connect engine.database url).run notebook).2.Anchored engine.database := by
  rcases url with - | url
  · exact anchored_reconnect engine.database notebook
  · obtain ⟨hsession, hsource, hhistory, hblocked⟩ := run_remember url notebook
    rw [connect]
    dsimp only
    rw [run_bind]
    rcases hrun : (remember url).run notebook with ⟨error | ⟨⟩, changed⟩
    all_goals rw [hrun] at hsession hsource hhistory hblocked
    · -- the connection is still open, so it has to lead to where it does now
      intro session hopen
      rw [hsession] at hopen
      rw [hhistory, hsource, hkept url session rfl (hblocked.mp ⟨error, rfl⟩) hopen]
      exact ⟨(h session hopen).1, rfl⟩
    · exact anchored_reconnect engine.database changed

/-- No connection is open behind `CONNECT CLOSE` and `CONNECT RESET`. -/
theorem session_perform_disconnect (text : String) (body : Option String) (unsettle : Bool)
    (notebook : Notebook) :
    ((perform engine text body (.disconnect unsettle)).run notebook).2.session = none := by
  apply run_bind_keeps notebook (·.session = none) (session_disconnect engine.database notebook)
  intro _ closed hclosed
  cases unsettle with
  | false => exact hclosed
  | true =>
    have hforget : (forget.run closed).2.session = none := by
      rw [forget, run_bind, run_modify]
      exact (leavesConnection_saveSettings _).session.trans hclosed
    exact run_bind_keeps closed (·.session = none) hforget fun _ _ hforgotten => hforgotten

/-- **An instruction leaves a notebook anchored**, whether it fails or not, unless it orphans
the connection. -/
theorem anchored_perform {notebook : Notebook} (h : notebook.Anchored engine.database)
    (text : String) (body : Option String) (instruction : Instruction)
    (hkept : ∀ url session, instruction = .connect (some url) → notebook.store = .blocked →
      notebook.session = some session → session.source = .url url) :
    ((perform engine text body instruction).run notebook).2.Anchored engine.database := by
  have hstays {action : Action Response} (haction : StaysAnchored engine.database action) :
      (action.run notebook).2.Anchored engine.database := haction notebook h
  have htransact {request : Connection → Talk Unit}
      (hrequest : ∀ session, (request session).Makes fun _ => True) :=
    hstays (.bind (staysAnchored_transact engine.database hrequest) fun notices =>
      .of_leaves (.pure { outcome := .nothing, notices }))
  rcases instruction with name | words | url | unsettle | - | - | on | ⟨name, query⟩ | - | sql
  · exact hstays (.of_leaves (leavesConnection_define name body _))
  · exact hstays (.of_leaves (leavesConnection_setOptions words))
  · have hconnected := anchored_connect engine h url fun link session hlink =>
      hkept link session (congrArg Instruction.connect hlink)
    exact run_bind_keeps notebook (·.Anchored engine.database) hconnected fun _ _ hlater => hlater
  · exact Notebook.anchored_of_session_eq_none _
      (session_perform_disconnect engine text body unsettle notebook)
  · exact htransact fun session => .ask engine.database trivial
  · exact htransact fun session => .ask engine.database trivial
  · exact htransact fun session => .ask engine.database trivial
  · exact (runUsing_anchored engine h name query).1
  · exact h
  · exact hstays (staysAnchored_runCell engine.database _)

/-- **A connection is orphaned** if the source is changed while it is open, and the settings
cannot be saved. -/
theorem not_belongs_connect (notebook : Notebook) {session : Connection} {url : String}
    (hsession : notebook.session = some session) (hblocked : notebook.store = .blocked)
    (hne : session.source ≠ .url url) (text : String) (body : Option String) :
    ¬ ((perform engine text body (.connect (some url))).run notebook).2.Belongs
      engine.database := by
  obtain ⟨hkept, hsource, -, hfails⟩ := run_remember url notebook
  obtain ⟨error, herror⟩ := hfails.mpr hblocked
  have hrun : (perform engine text body (.connect (some url))).run notebook =
      (.error error, ((remember url).run notebook).2) := by
    rw [perform, run_bind, connect]
    dsimp only
    rw [run_bind]
    rcases hremember : (remember url).run notebook with ⟨outcome, changed⟩
    rw [hremember] at herror
    obtain rfl : outcome = .error error := herror
    rfl
  rw [hrun]
  intro hbelongs
  obtain ⟨-, hconnector⟩ := hbelongs session (hkept.trans hsession)
  rw [Notebook.connector_of_source hsource] at hconnector
  exact hne (Except.ok.inj hconnector).symm

end Action

namespace Notebook

variable (engine : Engine)

/-! ### Runs -/

/-- Whether a line orphans the connection: it connects to a URL to which the open connection
does not lead, and the settings cannot be saved. -/
def Orphans (notebook : Notebook) (line : String) (body : Option String) : Prop :=
  ∃ url session,
    (notebook.entry line (givenBody body)).1.instruction? = some (.connect (some url)) ∧
      notebook.store = .blocked ∧ notebook.session = some session ∧ session.source ≠ .url url

/-- The notebook behind instructions that are run one after the other. -/
def after (engine : Engine) (notebook : Notebook) (cells : List (String × Option String)) :
    Notebook :=
  (notebook.sequence (fun notebook cell => notebook.run engine cell.1 cell.2) cells).2

variable {engine} {notebook : Notebook}

/-- A line that is no instruction to be carried out leaves the connection alone. -/
theorem sameConnection_of_instruction?_eq_none {line : String} {body : Option String}
    (hentry : (notebook.entry line (givenBody body)).1.instruction? = none) :
    SameConnection notebook (notebook.run engine line body).2 := by
  obtain ⟨flags, hkeeps⟩ := notebook.entry_keeps line (givenBody body)
  rw [run_eq_perform]
  rcases hread : notebook.entry line (givenBody body) with
    ⟨error | response | ⟨text, asked, notices⟩, ready⟩
  all_goals
    rw [hread] at hentry hkeeps
    obtain rfl : ready = { notebook with flags, status := {} } := hkeeps
  · exact ⟨rfl, rfl, rfl⟩
  · exact ⟨rfl, rfl, rfl⟩
  · cases hentry

/-- **A run leaves a notebook anchored**, unless it orphans the connection. -/
theorem Anchored.run (h : notebook.Anchored engine.database) {line : String}
    {body : Option String} (hkept : ¬ notebook.Orphans line body) :
    (notebook.run engine line body).2.Anchored engine.database := by
  rcases hentry : (notebook.entry line (givenBody body)).1.instruction? with - | instruction
  · exact h.of_same (sameConnection_of_instruction?_eq_none hentry)
  · obtain ⟨text, flags, hrun⟩ := run_of_instruction engine notebook hentry
    rw [hrun]
    have hready : Anchored engine.database { notebook with flags, status := {} } :=
      h.of_same ⟨rfl, rfl, rfl⟩
    apply Action.anchored_perform engine hready
    rintro url session rfl hblocked hopen
    -- a connection that leads elsewhere would be orphaned
    apply Decidable.byContradiction
    exact fun hne => hkept ⟨url, session, hentry, hblocked, hopen, hne⟩

theorem Orphans.not_belongs {line : String} {body : Option String}
    (h : notebook.Orphans line body) :
    ¬ (notebook.run engine line body).2.Belongs engine.database := by
  obtain ⟨url, session, hentry, hblocked, hopen, hne⟩ := h
  obtain ⟨text, flags, hrun⟩ := run_of_instruction engine notebook hentry
  rw [hrun]
  exact Action.not_belongs_connect engine { notebook with flags, status := {} } hopen hblocked
    hne text _

theorem Anchored.run_of_belongs (h : notebook.Anchored engine.database) {line : String}
    {body : Option String} (hbelongs : (notebook.run engine line body).2.Belongs engine.database) :
    (notebook.run engine line body).2.Anchored engine.database :=
  h.run fun horphans => horphans.not_belongs hbelongs

theorem Anchored.after (h : notebook.Anchored engine.database)
    {cells : List (String × Option String)}
    (hbelongs : ∀ run ∈ notebook.runs engine cells, run.2.Belongs engine.database) :
    (notebook.after engine cells).Anchored engine.database := by
  refine (sequence_keeps (·.Anchored engine.database) h ?_).1
  intro done cell rest hsplit hdone
  have hcell := hbelongs _ (mem_sequence hsplit)
  exact hdone.run_of_belongs hcell

/-- From an anchored notebook on, the connection belongs to the connector behind every run
exactly if none of them orphans it. -/
theorem Anchored.belongs_iff_forall_not_orphans (h : notebook.Anchored engine.database)
    (cells : List (String × Option String)) :
    (∀ run ∈ notebook.runs engine cells, run.2.Belongs engine.database) ↔
      ∀ done line body rest, cells = done ++ (line, body) :: rest →
        ¬ (notebook.after engine done).Orphans line body := by
  constructor
  · intro hbelongs done line body rest hsplit horphans
    have hcell := hbelongs _ (mem_sequence hsplit)
    exact horphans.not_belongs hcell
  · intro hkept run hrun
    -- up to a line that orphans the connection, the notebook stays anchored
    refine ((sequence_keeps (·.Anchored engine.database) h ?_).2 run hrun).belongs
    intro done cell rest hsplit hdone
    have hcell := hkept done cell.1 cell.2 rest hsplit
    exact hdone.run hcell

variable (engine) (notebook)

/-- **Whose connection is open.**  A notebook without a connection is given instructions,
which may fail in any way.  Behind every one of them, an open connection has been opened by
the connector that the notebook has then, exactly if no line orphans it: if none connects to
another URL while a connection is open and the settings cannot be saved.

As long as this is so, all that a fan-out calls, to check its query or to run its jobs, is
about connections to where the connector leads. -/
theorem belongs_runs_iff (hsession : notebook.session = none)
    (cells : List (String × Option String)) :
    ((∀ run ∈ notebook.runs engine cells, run.2.Belongs engine.database) ↔
      ∀ done line body rest, cells = done ++ (line, body) :: rest →
        ¬ (notebook.after engine done).Orphans line body) ∧
    ∀ done line body name query,
      (∀ run ∈ notebook.runs engine done, run.2.Belongs engine.database) →
      ((notebook.after engine done).entry line (givenBody body)).1.instruction? =
        some (.using name query) →
      let later := ((notebook.after engine done).run engine line body).2
      ∃ calls, later.history = calls ++ (notebook.after engine done).history ∧
        ∀ call ∈ calls, later.connector = .ok call.connection.source := by
  have hanchored := anchored_of_session_eq_none engine.database hsession
  refine ⟨hanchored.belongs_iff_forall_not_orphans cells, ?_⟩
  intro done line body name query hbelongs hentry
  have hdone : (notebook.after engine done).Anchored engine.database := hanchored.after hbelongs
  obtain ⟨text, flags, hrun⟩ := run_of_instruction engine _ hentry
  have hready : Anchored engine.database
      { notebook.after engine done with flags, status := {} } := hdone.of_same ⟨rfl, rfl, rfl⟩
  obtain ⟨-, calls, hcalls, hsource⟩ := Action.runUsing_anchored engine hready name query
  rw [hrun]
  exact ⟨calls, hcalls, fun call hcall => connector_of_source (hsource call hcall)⟩

/-- A notebook that has been given a database and cannot save its settings. -/
def unsaved : Notebook where
  settings := { threads := 2 }
  store := .blocked
  hostVariables := Dictionary.empty.set "n" (.list [.integer 1])
  source := some .given

/-- A connection is opened, another URL is connected to in vain, and a query is fanned out. -/
def orphaningCells : List (String × Option String) :=
  [("CONNECT", none), ("CONNECT db2://other", none), ("USING n SELECT :n FROM T", none)]

/-- Behind the second line, the open connection leads to the database that the notebook has
been given, and the connector to the URL.  So the query of the third line is checked by the
one and run by the other. -/
theorem map_runs_orphaningCells :
    (unsaved.runs .willing orphaningCells).map
        (fun run => (run.2.session, run.2.source, run.2.history)) =
      [(some ⟨.given, 1⟩, some .given, [.connect ⟨.given, 1⟩]),
        (some ⟨.given, 1⟩, some (.url "db2://other"), [.connect ⟨.given, 1⟩]),
        (some ⟨.given, 1⟩, some (.url "db2://other"),
          [.close ⟨.url "db2://other", 1⟩,
            .fetch ⟨.url "db2://other", 1⟩ ⟨"SELECT 1 FROM T", [⟨"SQL", "VARCHAR"⟩]⟩,
            .prepare ⟨.url "db2://other", 1⟩ "SELECT 1 FROM T",
            .connect ⟨.url "db2://other", 1⟩,
            .prepare ⟨.given, 1⟩ "SELECT 1 FROM T",
            .connect ⟨.given, 1⟩])] := by
  decide +kernel

/-- So the connection does not always belong to the connector. -/
theorem runs_orphaningCells :
    unsaved.session = none ∧
      ¬ ∀ run ∈ unsaved.runs .willing orphaningCells, run.2.Belongs Engine.willing.database := by
  refine ⟨rfl, fun hbelongs => ?_⟩
  have hsecond : (some (⟨.given, 1⟩ : Connection), some (Source.url "db2://other"),
      [Call.connect ⟨.given, 1⟩]) ∈ (unsaved.runs .willing orphaningCells).map
        (fun run => (run.2.session, run.2.source, run.2.history)) := by
    rw [map_runs_orphaningCells]
    exact List.mem_cons_of_mem _ List.mem_cons_self
  obtain ⟨run, hrun, heq⟩ := List.mem_map.mp hsecond
  obtain ⟨hsession, hsource, -⟩ : run.2.session = _ ∧ run.2.source = _ ∧ _ := by
    simpa using heq
  obtain ⟨-, hconnector⟩ := hbelongs run hrun _ hsession
  rw [connector_of_source hsource] at hconnector
  cases hconnector

/-- The second line orphans the connection that the first one has opened. -/
theorem belongs_runs_iff_unsaved :
    unsaved.session = none ∧
      (unsaved.after .willing [("CONNECT", none)]).Orphans "CONNECT db2://other" none ∧
      ¬ ∀ run ∈ unsaved.runs .willing [("CONNECT", none), ("CONNECT db2://other", none)],
        run.2.Belongs Engine.willing.database := by
  have horphans : (unsaved.after .willing [("CONNECT", none)]).Orphans
      "CONNECT db2://other" none :=
    ⟨"db2://other", ⟨.given, 1⟩, by decide +kernel, by decide +kernel, by decide +kernel, nofun⟩
  obtain ⟨hiff, -⟩ := belongs_runs_iff .willing unsaved rfl
    [("CONNECT", none), ("CONNECT db2://other", none)]
  refine ⟨rfl, horphans, fun hbelongs => ?_⟩
  exact hiff.mp hbelongs [("CONNECT", none)] "CONNECT db2://other" none [] rfl horphans

end Notebook

end SqlNotebook
