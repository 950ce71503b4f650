/-
SqlNotebook/Proofs/FanOut/Calls.lean

What the calls of a fan-out come to.  The calls of a run lie on top of the
history from which it starts, the last one first:

    history of the run  =  calls ++ earlier

What a call is answered depends on everything below it.  `collect` goes through
the calls with that in view; it gathers the failures, and the tables that have
been fetched.
-/
import SqlNotebook.FanOut.Fleet

namespace SqlNotebook

namespace Database

/-! ### Single calls -/

/-- The failure that a call comes to after the calls `before`.  A connection that
cannot be closed is no failure. -/
def failure? (database : Database) (before : History) (call : Call) : Option Error :=
  match call, database.reply before call with
  | .close _, _ => none
  | _, .error error => some error
  | _, .ok _ => none

/-- The query that a call runs and the table that it brings. -/
def fetched? (database : Database) (before : History) : Call → Option (String × ResultTable)
  | .fetch connection statement =>
    match database.reply before (.fetch connection statement) with
    | .ok table => some (statement.sql, table)
    | .error _ => none
  | _ => none

/-! ### All calls of a run -/

/-- What `pick` takes from the calls on top of `earlier`. -/
def collect {α : Type} (pick : History → Call → Option α) (earlier : History) :
    List Call → List α
  | [] => []
  | call :: calls => (pick (calls ++ earlier) call).toList ++ collect pick earlier calls

/-- The failures among the calls of a run. -/
def failures (database : Database) : History → List Call → List Error :=
  collect database.failure?

/-- The queries that have been run, and their tables. -/
def fetches (database : Database) : History → List Call → List (String × ResultTable) :=
  collect database.fetched?

theorem collect_append {α : Type} (pick : History → Call → Option α) (earlier : History)
    (new calls : List Call) :
    collect pick earlier (new ++ calls) =
      collect pick (calls ++ earlier) new ++ collect pick earlier calls := by
  induction new with
  | nil => rfl
  | cons call new ih =>
    rw [List.cons_append, collect, collect, ih, List.append_assoc, List.append_assoc]

/-- What is gathered has been taken from one of the calls. -/
theorem exists_of_mem_collect {α : Type} {pick : History → Call → Option α} {earlier : History}
    {calls : List Call} {a : α} (h : a ∈ collect pick earlier calls) :
    ∃ before, ∃ call ∈ calls, pick before call = some a := by
  induction calls with
  | nil => cases h
  | cons call calls ih =>
    rw [collect, List.mem_append, Option.mem_toList] at h
    rcases h with hcall | hcalls
    · exact ⟨_, call, List.mem_cons_self, hcall⟩
    · obtain ⟨before, other, hother, hpick⟩ := ih hcalls
      exact ⟨before, other, List.mem_cons_of_mem call hother, hpick⟩

end Database

/-! ### Conversations -/

/-- A conversation in which all calls are of one kind, also if it fails. -/
def Talk.Makes {α : Type} (Kind : Call → Prop) (talk : Talk α) : Prop :=
  ∀ history, ∃ calls, (talk.run history).2 = calls ++ history ∧ ∀ call ∈ calls, Kind call

namespace Talk.Makes

variable {α β : Type} {Kind : Call → Prop}

theorem pure (a : α) : Makes Kind (pure a : Talk α) :=
  fun _ => ⟨[], rfl, List.forall_mem_nil _⟩

theorem throw (error : Error) : Makes Kind (throw error : Talk α) :=
  fun _ => ⟨[], rfl, List.forall_mem_nil _⟩

theorem ask (database : Database) {call : Call} (h : Kind call) :
    Makes Kind (database.ask call) :=
  fun _ => ⟨[call], rfl, List.forall_mem_singleton.mpr h⟩

theorem bind {talk : Talk α} {next : α → Talk β} (htalk : Makes Kind talk)
    (hnext : ∀ a, Makes Kind (next a)) : Makes Kind (talk >>= next) := by
  intro history
  obtain ⟨calls, hcalls, hkind⟩ := htalk history
  rw [run_bind]
  rcases hrun : talk.run history with ⟨error | a, later⟩
  all_goals
    rw [hrun] at hcalls
    obtain rfl : later = calls ++ history := hcalls
  · exact ⟨calls, rfl, hkind⟩
  · obtain ⟨more, hmore, hmoreKind⟩ := hnext a (calls ++ history)
    refine ⟨more ++ calls, ?_, List.forall_mem_append.mpr ⟨hmoreKind, hkind⟩⟩
    rw [List.append_assoc]
    exact hmore

theorem mono {Wider : Call → Prop} {talk : Talk α} (h : Makes Kind talk)
    (hwider : ∀ call, Kind call → Wider call) : Makes Wider talk := by
  intro history
  obtain ⟨calls, hcalls, hkind⟩ := h history
  exact ⟨calls, hcalls, fun call hcall => hwider call (hkind call hcall)⟩

end Talk.Makes

namespace FanOut.Fleet

variable (database : Database) (source : Source) (places : Nat) (fleet : Fleet)

/-! ### Calls of a fleet -/

/-- The call that a job makes in its turn. -/
def call? (job : Job) : Option Call :=
  match job.stage with
  | .cleared => some (.connect (.next source fleet.history))
  | .issued connection => some (.prepare connection job.sql)
  | .ready connection statement => some (.fetch connection statement)
  | .closing connection _ => some (.close connection)
  | _ => none

/-- The failure to which the turn of a job comes. -/
def failing? (job : Job) : Option Error :=
  (fleet.call? source job).bind (database.failure? fleet.history)

/-- What the turn of a job fetches. -/
def fetching? (job : Job) : Option (String × ResultTable) :=
  (fleet.call? source job).bind (database.fetched? fleet.history)

/-- The fleet after one more call. -/
def called (call : Call) : Fleet :=
  { fleet with history := call :: fleet.history }

theorem talk_connect :
    fleet.talk (database.connect source) =
      ((database.reply fleet.history (.connect (.next source fleet.history))).map
          fun _ => .next source fleet.history,
        fleet.called (.connect (.next source fleet.history))) := by
  rw [talk, Database.run_connect]
  rfl

theorem talk_prepare (connection : Connection) (sql : String) :
    fleet.talk (database.prepare connection sql) =
      ((database.reply fleet.history (.prepare connection sql)).map fun columns => ⟨sql, columns⟩,
        fleet.called (.prepare connection sql)) := by
  rw [talk, Database.run_prepare]
  rfl

theorem talk_fetch (connection : Connection) (statement : Prepared) :
    fleet.talk (database.fetch connection statement) =
      (database.reply fleet.history (.fetch connection statement),
        fleet.called (.fetch connection statement)) := rfl

/-- A job that connects. -/
theorem advance_cleared (sql : String) :
    fleet.advance database source places ⟨sql, .cleared⟩ =
      (match database.reply fleet.history (.connect (.next source fleet.history)) with
        | .ok _ => .connected (.next source fleet.history)
        | .error error => .failed error,
        fleet.called (.connect (.next source fleet.history))) := by
  simp only [advance, talk_connect]
  rcases database.reply fleet.history (.connect (.next source fleet.history)) <;> rfl

/-- A job that has its query described. -/
theorem advance_issued (sql : String) (connection : Connection) :
    fleet.advance database source places ⟨sql, .issued connection⟩ =
      (match database.reply fleet.history (.prepare connection sql) with
        | .ok columns => .prepared connection ⟨sql, columns⟩
        | .error error => .closing connection (.error error),
        fleet.called (.prepare connection sql)) := by
  simp only [advance, talk_prepare]
  rcases database.reply fleet.history (.prepare connection sql) <;> rfl

/-- A job that has its query run. -/
theorem advance_ready (sql : String) (connection : Connection) (statement : Prepared) :
    fleet.advance database source places ⟨sql, .ready connection statement⟩ =
      (match database.reply fleet.history (.fetch connection statement) with
        | .ok table => .closing connection (.ok (some table))
        | .error error => .closing connection (.error error),
        fleet.called (.fetch connection statement)) := by
  simp only [advance, talk_fetch]
  rcases database.reply fleet.history (.fetch connection statement) <;> rfl

/-- A job that closes its connection. -/
theorem advance_closing (sql : String) (connection : Connection) (outcome : JobOutcome) :
    fleet.advance database source places ⟨sql, .closing connection outcome⟩ =
      (.ofOutcome outcome, fleet.called (.close connection)) := rfl

end FanOut.Fleet

end SqlNotebook
