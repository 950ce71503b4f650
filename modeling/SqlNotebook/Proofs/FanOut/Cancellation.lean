/-
SqlNotebook/Proofs/FanOut/Cancellation.lean

What is still called once a fan-out has been called off.  Between two looks whether
that has happened, a job connects, or has its query described, or has it run.  So a
job that was on the way to one of these calls when the fan-out was called off makes
this one call, finds out, and at the most closes its connection; a job that has not
looked yet makes no call at all:

    waiting, admitted               nothing
    cleared, sending, issued, ready one call, and close
    connected, prepared, closing    close

The first of these calls is the last one of its job that is not a `close`, and a job
that can make one has a place, so there are no more of them than places, however
many jobs there are.
-/
import SqlNotebook.Proofs.FanOut.Log
import SqlNotebook.Proofs.FanOut.Outcome

namespace SqlNotebook

/-- Whether a call connects, or has a query described or run. -/
def Call.isWork : Call → Bool
  | connect _ => true
  | prepare .. => true
  | fetch .. => true
  | _ => false

namespace FanOut

namespace Stage

/-- Whether a job at this stage is going to make a call before it looks again whether
the fan-out has been called off. -/
def isCommitted : Stage → Bool
  | cleared => true
  | sending _ => true
  | issued _ => true
  | ready .. => true
  | _ => false

/-- Whether a job at this stage has not looked yet whether the fan-out has been called
off. -/
def isUnaware : Stage → Bool
  | waiting => true
  | admitted => true
  | _ => false

/-- What a job may still call from this stage on, when the fan-out has been called off. -/
def WindsDown (stage : Stage) (calls : List Call) : Prop :=
  match stage with
  | cleared | sending _ | issued _ | ready .. =>
    ∃ work connection, work.isWork ∧ calls.Sublist [work, .close connection]
  | connected connection | prepared connection _ | closing connection _ =>
    calls.Sublist [.close connection]
  | _ => calls = []

theorem windsDown_nil (stage : Stage) : stage.WindsDown [] := by
  have hwork : ∃ work connection, Call.isWork work ∧
      ([] : List Call).Sublist [work, .close connection] :=
    ⟨.connect ⟨.given, 0⟩, ⟨.given, 0⟩, rfl, List.nil_sublist _⟩
  cases stage with
  | cleared | sending | issued | ready => exact hwork
  | connected | prepared | closing => exact List.nil_sublist _
  | _ => rfl

/-- From any stage on, it is one call and a `close` at the most. -/
theorem WindsDown.sublist {stage : Stage} {calls : List Call} (h : stage.WindsDown calls) :
    ∃ work connection, work.isWork ∧ calls.Sublist [work, .close connection] := by
  have hclose (connection : Connection) (hcalls : calls.Sublist [.close connection]) :
      ∃ work connection, Call.isWork work ∧ calls.Sublist [work, .close connection] :=
    ⟨.connect connection, connection, rfl, hcalls.cons _⟩
  cases stage with
  | cleared | sending | issued | ready => exact h
  | connected connection | prepared connection | closing connection => exact hclose connection h
  | _ =>
    obtain rfl : calls = [] := h
    exact hclose ⟨.given, 0⟩ (List.nil_sublist _)

theorem WindsDown.eq_nil {stage : Stage} {calls : List Call} (h : stage.WindsDown calls)
    (hunaware : stage.isUnaware) : calls = [] := by
  cases stage with
  | waiting | admitted => exact h
  | _ => cases hunaware

end Stage

namespace Fleet

variable {database : Database} {source : Source} {places : Nat}
variable {fleet : Fleet} {job : Job} {i : Nat}

/-! ### Single turns -/

/-- A fan-out that has been called off stays so. -/
theorem cancelled_turns (order : List Nat) (h : fleet.cancelled = true) :
    (fleet.turns database source places order).cancelled = true := by
  apply turns_preserves order (·.cancelled = true) _ h
  intro fleet i h
  rw [cancelled_turn, h, Bool.true_or]

/-- In a turn, a job makes the next one of the calls that are left to it. -/
theorem windsDown_moved (hcancelled : fleet.cancelled = true) {calls : List Call}
    (h : (fleet.moved database source places job).stage.WindsDown calls) :
    job.stage.WindsDown ((fleet.call? source job).toList ++ calls) := by
  obtain ⟨stage, hmoved, hmoves⟩ := exists_moved database source places fleet job
  rcases job with ⟨sql, earlier⟩
  rw [hmoved] at h
  cases hmoves with
  -- a job that looks does not go on
  | clear runs | proceed _ runs | goOn _ _ runs =>
    rw [hcancelled] at runs
    cases runs
  -- a job that is on its way makes its call, and has nothing left but to close
  | connect | prepare | failPrepare | fetch | failFetch =>
    exact ⟨_, _, rfl, List.Sublist.cons_cons _ h⟩
  | refuse =>
    obtain rfl : calls = [] := h
    exact ⟨_, ⟨.given, 0⟩, rfl, List.Sublist.cons_cons _ (List.nil_sublist _)⟩
  | close connection | closeFailed connection =>
    obtain rfl : calls = [] := h
    exact List.Sublist.refl [Call.close connection]
  | _ => exact h

variable (database source places) in
/-- **A job that winds down**: once the fan-out has been called off, a job makes the
calls that are left to it at its stage, and no others. -/
theorem windsDown_callsOf (order : List Nat) (hcancelled : fleet.cancelled = true)
    (hjob : fleet.jobs[i]? = some job) :
    job.stage.WindsDown (fleet.callsOf database source places i order) := by
  apply callsOf_induction (·.cancelled = true) Stage.WindsDown _ Stage.windsDown_nil _ order
    hcancelled hjob
  · intro fleet i h
    exact cancelled_turns [i] h
  · intro fleet job calls h hcalls
    exact windsDown_moved h hcalls

/-! ### All jobs together -/

/-- Whether a job is going to make a call before it looks again, as an account. -/
def committed? (job : Job) : Option Unit :=
  if job.stage.isCommitted then some () else none

/-- Whether a job connects, or has its query described or run in its turn. -/
def working? (source : Source) (fleet : Fleet) (job : Job) : Option Unit :=
  (fleet.call? source job).bind fun call => if call.isWork then some () else none

variable (database source places) in
/-- Once the fan-out has been called off, no job sets out for a further call, so that
each call is one of those that jobs were on the way to. -/
theorem keepsBalance_committed (hcancelled : fleet.cancelled = true) :
    KeepsBalance database source places committed? (working? source) (fun _ _ => none)
      fleet job := by
  rw [KeepsBalance]
  obtain ⟨stage, hmoved, hmoves⟩ := exists_moved database source places fleet job
  rcases job with ⟨sql, earlier⟩
  rw [hmoved]
  cases hmoves with
  | clear runs | proceed _ runs | goOn _ _ runs =>
    rw [hcancelled] at runs
    cases runs
  | _ => exact .refl _

/-- The calls of a run, as far as they are work. -/
theorem length_along_working (order : List Nat) :
    (along database source places (working? source) fleet order).length =
      (fleet.calls database source places order).countP Call.isWork := by
  rw [calls, List.countP_reverse]
  show (along database source places (fun fleet job => (fleet.call? source job).bind
    fun call => if call.isWork then some () else none) fleet order).length = _
  rw [along_bind, List.length_filterMap_eq_countP]
  congr 1
  funext call
  cases call.isWork <;> rfl

/-- A job that is on the way to a call has a place. -/
theorem isRunning_of_isCommitted {stage : Stage} (h : stage.isCommitted) : stage.isRunning := by
  cases stage <;> first | rfl | cases h

variable (database source places) in
/-- Once the fan-out has been called off, there is no more work than places. -/
theorem countP_isWork_le (order : List Nat) (hcancelled : fleet.cancelled = true)
    (hrunning : fleet.running ≤ places) :
    (fleet.calls database source places order).countP Call.isWork ≤ places := by
  have balance := perm_turns committed? (working? source) (fun _ _ => none) order fleet
    fun done i rest _ job _ =>
      keepsBalance_committed database source places (cancelled_turns done hcancelled)
  have hlength := balance.length_eq
  rw [along_none, List.append_nil, List.length_append, length_along_working] at hlength
  have hcommitted : (fleet.jobs.filterMap committed?).length ≤ fleet.running := by
    rw [List.length_filterMap_eq_countP, running]
    apply List.countP_mono_left
    intro job _ hjob
    rw [committed?] at hjob
    split at hjob
    · next hstage => exact isRunning_of_isCommitted hstage
    · cases hjob
  omega

end Fleet

/-! ### Requests -/

variable (engine : Engine) (session : Connection) (source : Source) (request : Request)

/-- **Once a fan-out has been called off, its work stops within one call for each job.**
At any point of the run of a request, in whatever order the jobs take their turns, the
calls of the run are those so far, and on top of them those that follow.

If the fan-out has been called off by then, a job that has not looked yet whether this
has happened makes none of those that follow.  Any other job makes at most one that
connects or has its query described or run, and behind it at most one that closes.  In
all, no more of them connect or have a query described or run than there are places. -/
theorem run_winds_down {plan : Plan} {earlier validated : History}
    (hvalid : (validate engine.database session request).run earlier = (.ok plan, validated))
    (hworkers : minWorkers ≤ request.workers) :
    let queries := plan.queries request.name
    let places := min request.workers maxWorkers
    ∀ done rest, schedule engine queries.length = done ++ rest →
      let fleet := (Fleet.start queries validated).turns engine.database source places done
      let further := fleet.log engine.database source places rest
      ((run engine session source request).run earlier).2 =
          (further.map (·.2)).reverse ++ fleet.history ∧
        (fleet.cancelled = true →
          (∀ i job, fleet.jobs[i]? = some job →
            let calls := fleet.callsOf engine.database source places i rest
            (job.stage.isUnaware → calls = []) ∧
              ∃ work connection, work.isWork ∧ calls.Sublist [work, .close connection]) ∧
          further.countP (·.2.isWork) ≤ places) := by
  intro queries places done rest horder fleet further
  have hfurther : fleet.calls engine.database source places rest =
      (further.map (·.2)).reverse := Fleet.calls_eq_log rest
  refine ⟨?_, fun hcancelled => ⟨fun i job hjob => ?_, ?_⟩⟩
  · rw [run_of_validated engine session source request hvalid hworkers, ← hfurther]
    show ((Fleet.start queries validated).turns engine.database source places
      (schedule engine queries.length)).history = _
    rw [horder, Fleet.turns_append, Fleet.history_turns]
  · have hcalls := Fleet.windsDown_callsOf engine.database source places rest hcancelled hjob
    exact ⟨hcalls.eq_nil, hcalls.sublist⟩
  · have hle := Fleet.countP_isWork_le engine.database source places rest hcancelled
      (Fleet.running_turns_start_le engine.database source places queries validated done)
    rw [hfurther, List.countP_reverse, List.countP_map] at hle
    exact hle

/-- The second of several queries is refused, when the first one is about to be run. -/
def refusing : Engine :=
  (Script.losing "2" .prepare (.connection "lost")).engine fun _ =>
    List.replicate 7 0 ++ List.replicate 9 1

/-- A request with three items, for two jobs at a time. -/
def threeRequest : Request :=
  ⟨"SELECT :n", "n", .list [.integer 1, .integer 2, .integer 3], 2⟩

/-- If the second of three queries is refused, then the first one, which is on its way, is
still run, and the third one makes no call. -/
theorem run_winds_down_three :
    let validated : History := [.prepare ⟨.given, 1⟩ "SELECT 1", .connect ⟨.given, 1⟩]
    let fleet := (Fleet.start ["SELECT 1", "SELECT 2", "SELECT 3"] validated).turns
      refusing.database .given 2 (refusing.order 3)
    let rest := Fleet.inOrder 3 ++ Fleet.inOrder 3
    (validate refusing.database ⟨.given, 1⟩ threeRequest).run [.connect ⟨.given, 1⟩] =
        (.ok ⟨"SELECT :n", [.integer 1, .integer 2, .integer 3], "SELECT 1"⟩, validated) ∧
      minWorkers ≤ threeRequest.workers ∧ fleet.cancelled = true ∧
      fleet.log refusing.database .given 2 rest =
        [(0, .fetch ⟨.given, 2⟩ ⟨"SELECT 1", [⟨"SQL", "VARCHAR"⟩]⟩), (0, .close ⟨.given, 2⟩)] ∧
      fleet.callsOf refusing.database .given 2 2 rest = [] ∧
      (fleet.log refusing.database .given 2 rest).countP (·.2.isWork) ≤ 2 := by
  intro validated fleet rest
  have hvalid : (validate refusing.database ⟨.given, 1⟩ threeRequest).run
      [.connect ⟨.given, 1⟩] =
        (.ok ⟨"SELECT :n", [.integer 1, .integer 2, .integer 3], "SELECT 1"⟩, validated) := rfl
  have hcancelled : fleet.cancelled = true := by decide +kernel
  have hlog : fleet.log refusing.database .given 2 rest =
      [(0, .fetch ⟨.given, 2⟩ ⟨"SELECT 1", [⟨"SQL", "VARCHAR"⟩]⟩), (0, .close ⟨.given, 2⟩)] := by
    decide +kernel
  -- the third job has not had a turn yet
  have hjob : fleet.jobs[2]? = some ⟨"SELECT 3", .waiting⟩ := by
    have hmissing : 2 ∉ refusing.order 3 := by decide
    exact (Fleet.getElem?_turns_of_notMem _ _ _ hmissing).trans rfl
  obtain ⟨-, hafter⟩ := run_winds_down refusing ⟨.given, 1⟩ .given threeRequest hvalid (by decide)
    (refusing.order 3) rest rfl
  obtain ⟨hjobs, hwork⟩ := hafter hcancelled
  obtain ⟨hunaware, -⟩ := hjobs 2 ⟨"SELECT 3", .waiting⟩ hjob
  exact ⟨hvalid, by decide, hcancelled, hlog, hunaware rfl, hwork⟩

end FanOut

end SqlNotebook
