/-
SqlNotebook/Proofs/Notebook/Failure.lean

Which failures show as failures.  An error is recorded with the code that the
database has given, if that is an integer of 64 bits, and with `-1` otherwise:

    statement of a cell fails            `runStatement`
    COMMIT, ROLLBACK, AUTOCOMMIT fails   `transact`
    USING fails                          `runUsing`

What looks for a failure afterwards looks for a negative code, as does a run of the
shell that has one instruction to carry out.  So a failure is missed exactly if the
database gives it a code that is read as zero or as a positive number.
-/
import SqlNotebook.Proofs.Notebook.Status
import SqlNotebook.Shell.Session

namespace SqlNotebook

namespace Numeral

/-- A numeral that is read as zero or as a positive number of 64 bits. -/
def Nonnegative (s : String) : Prop :=
  ∃ digits n, Chars.natural? digits = some n ∧
    ((s.toList = digits ∨ s.toList = '+' :: digits) ∧ n < int64Bound ∨
      s.toList = '-' :: digits ∧ n = 0)

theorem natural?_sign {sign : Char} (rest : List Char) (hsign : ¬ sign.isDigit) :
    Chars.natural? (sign :: rest) = none := by
  simp [Chars.natural?, hsign]

/-- Digits without a minus sign are read as an integer if that is small enough. -/
theorem unsigned_iff (digits : List Char) :
    (∃ n, ((Chars.natural? digits).map Int.ofNat).filter fitsInt64 = some n ∧ 0 ≤ n) ↔
      ∃ n, Chars.natural? digits = some n ∧ n < int64Bound := by
  rcases Chars.natural? digits with - | n
  · simp
  · have hfits : fitsInt64 (Int.ofNat n) ↔ n < int64Bound := by
      simp only [fitsInt64, Bool.and_eq_true, decide_eq_true_eq, Int.ofNat_eq_natCast]
      omega
    simp only [Option.map_some, Option.some.injEq, exists_eq_left', ← hfits,
      Option.filter_eq_some_iff]
    exact ⟨fun ⟨_, ⟨hn, hfit⟩, _⟩ => hn ▸ hfit, fun hfit => ⟨_, ⟨rfl, hfit⟩, Int.natCast_nonneg n⟩⟩

/-- Digits behind a minus sign are read as zero if they are zeros. -/
theorem minus_iff (digits : List Char) :
    (∃ n, ((Chars.natural? digits).map fun n => -(n : Int)).filter fitsInt64 = some n ∧ 0 ≤ n) ↔
      Chars.natural? digits = some 0 := by
  rcases Chars.natural? digits with - | n
  · simp
  · show (∃ m, (some (-(n : Int))).filter fitsInt64 = some m ∧ 0 ≤ m) ↔ some n = some 0
    simp only [Option.some.injEq, Option.filter_eq_some_iff]
    constructor
    · rintro ⟨_, ⟨rfl, -⟩, hnonneg⟩
      omega
    · rintro rfl
      exact ⟨0, ⟨rfl, rfl⟩, Int.le_refl 0⟩

theorem integer?_nonneg_iff (s : String) :
    (∃ n, integer? s = some n ∧ 0 ≤ n) ↔ Nonnegative s := by
  rw [integer?, Nonnegative]
  -- the sign decides, and a text that starts with one is no run of digits itself
  split
  case h_1 rest hs =>
    rw [unsigned_iff, hs]
    constructor
    · rintro ⟨n, hn, hfits⟩
      exact ⟨rest, n, hn, .inl ⟨.inr rfl, hfits⟩⟩
    · rintro ⟨digits, n, hn, ⟨hdigits | hdigits, hfits⟩ | ⟨hdigits, -⟩⟩
      · rw [← hdigits, natural?_sign rest (by decide)] at hn
        cases hn
      · cases hdigits
        exact ⟨n, hn, hfits⟩
      · cases hdigits
  case h_2 rest hs =>
    rw [minus_iff, hs]
    constructor
    · intro hzero
      exact ⟨rest, 0, hzero, .inr ⟨rfl, rfl⟩⟩
    · rintro ⟨digits, n, hn, ⟨hdigits | hdigits, -⟩ | ⟨hdigits, rfl⟩⟩
      · rw [← hdigits, natural?_sign rest (by decide)] at hn
        cases hn
      · cases hdigits
      · cases hdigits
        exact hn
  case h_3 hplus hminus =>
    rw [unsigned_iff]
    constructor
    · rintro ⟨n, hn, hfits⟩
      exact ⟨s.toList, n, hn, .inl ⟨.inl rfl, hfits⟩⟩
    · rintro ⟨digits, n, hn, ⟨hdigits | hdigits, hfits⟩ | ⟨hdigits, -⟩⟩
      · exact ⟨n, hdigits ▸ hn, hfits⟩
      · exact absurd hdigits (hplus digits)
      · exact absurd hdigits (hminus digits)

end Numeral

/-- The database has given an error a code that does not show it. -/
def Error.Hidden (error : Error) : Prop :=
  ∃ code, error.code? = some code ∧ Numeral.Nonnegative code

/-- An error shows as a negative code exactly if it is not hidden. -/
theorem Status.code_ofError_neg_iff (error : Error) :
    (ofError error).code < 0 ↔ ¬ error.Hidden := by
  rw [ofError, Error.Hidden]
  rcases error.code? with - | code
  · simp [unknownCode]
  · dsimp only [Option.bind_some]
    simp only [Option.some.injEq, exists_eq_left', ← Numeral.integer?_nonneg_iff]
    rcases Numeral.integer? code with - | n
    · simp [unknownCode]
    · simp

namespace Notebook

/-- A step of a notebook at whose end an error is recorded. -/
inductive Records (engine : Engine) (error : Error) : Notebook → Notebook → Prop
  /-- A statement is refused, or it fails when it is run. -/
  | statement {session : Connection} {progress : Progress} {statement sql : String}
      {notices : List Notice} {before ready : Notebook} :
      (Action.readStatement statement).run before = (.ok (notices, some sql), ready) →
      ((engine.database.send session sql).run ready.history).1 = .error error →
      Records engine error before
        ((Action.runStatement engine.database session progress statement).run before).2
  /-- Something that is asked of the open connection is refused. -/
  | transaction (request : Connection → Talk Unit) {session : Connection} {before : Notebook} :
      before.session = some session →
      ((request session).run before.history).1 = .error error →
      Records engine error before ((Action.transact request).run before).2
  /-- A fan-out fails. -/
  | fanOut {name query : String} {session : Connection} {source : Source}
      {request : FanOut.Request} {before connected ready : Notebook} :
      (Action.ensureConnected engine.database).run before = (.ok session, connected) →
      Action.settleSource.run connected = (.ok source, ready) →
      ready.fanOut? name query = .ok request →
      ((FanOut.run engine session source request).run ready.history).1 = .error error →
      Records engine error before ((Action.runUsing engine name query).run before).2

variable {engine : Engine} {error : Error} {before after : Notebook}

theorem Records.status (hrecords : Records engine error before after) :
    after.status = .ofError error := by
  -- each step is run up to the record, behind which nothing touches the status
  rcases hrecords with
    ⟨hread, hsend⟩ | ⟨request, hsession, hrequest⟩ | ⟨hconnected, hready, hfanOut, hrun⟩
  · rw [Action.runStatement, Action.run_bind, hread]
    dsimp only
    rw [Action.run_bind, Action.run_get]
    dsimp only
    rw [Action.run_bind, Action.run_attempt, Action.run_ofTalk]
    dsimp only
    rw [hsend]
    rfl
  · rw [Action.transact, Action.run_bind, Action.run_get]
    dsimp only
    rw [hsession]
    dsimp only
    rw [Action.run_bind, Action.run_attempt, Action.run_ofTalk]
    dsimp only
    rw [hrequest]
    rfl
  · rw [Action.runUsing, Action.run_bind, hconnected]
    dsimp only
    rw [Action.run_bind, hready]
    dsimp only
    rw [Action.run_bind, Action.run_get]
    dsimp only
    rw [Action.run_bind, Action.run_ofExcept, hfanOut]
    dsimp only
    rw [Action.run_bind, Action.run_attempt, Action.run_ofTalk]
    dsimp only
    rw [hrun]
    rfl

/-- What an instruction asks of the open connection, if that is all that it does. -/
def request? (database : Database) : Instruction → Option (Connection → Talk Unit)
  | .commit => some database.commit
  | .rollback => some database.rollback
  | .autocommit on => some (database.setAutocommit on)
  | _ => none

theorem perform_of_request {instruction : Instruction} {request : Connection → Talk Unit}
    (hrequest : request? engine.database instruction = some request) (text : String)
    (body : Option String) (notebook : Notebook) :
    ((Action.perform engine text body instruction).run notebook).2 =
      ((Action.transact request).run notebook).2 := by
  have hreturn : ((Action.transact request >>= fun notices =>
      (pure { outcome := .nothing, notices } : Action Response)).run notebook).2 =
        ((Action.transact request).run notebook).2 := by
    rw [Action.run_bind]
    rcases (Action.transact request).run notebook with ⟨error | notices, changed⟩
    · rfl
    · rfl
  cases instruction with
  | commit => cases hrequest; exact hreturn
  | rollback => cases hrequest; exact hreturn
  | autocommit on => cases hrequest; exact hreturn
  | _ => cases hrequest

/-- An instruction that the open connection refuses leaves its error in the status. -/
theorem status_of_refused {notebook : Notebook} {line : String} {body : Option String}
    {instruction : Instruction} {request : Connection → Talk Unit} {session : Connection}
    (hentry : (notebook.entry line (givenBody body)).1.instruction? = some instruction)
    (hrequest : request? engine.database instruction = some request)
    (hsession : notebook.session = some session)
    (hrefused : ((request session).run notebook.history).1 = .error error) :
    (notebook.run engine line body).2.status = .ofError error := by
  obtain ⟨text, flags, hrun⟩ := notebook.run_of_instruction engine hentry
  rw [hrun, perform_of_request hrequest]
  have hrecords : Records engine error { notebook with flags, status := {} } _ :=
    .transaction request hsession hrefused
  exact hrecords.status

end Notebook

namespace Shell

theorem Session.status_close (engine : Engine) (session : Session) :
    (session.close engine).notebook.status = session.notebook.status := by
  rw [close, Notebook.close, Action.disconnect, Action.run_bind, Action.run_get]
  dsimp only
  rcases session.notebook.session with - | connection
  · rfl
  · rfl

theorem runOnce_code (engine : Engine) (session : Session) (instruction : String)
    (body : Option String) :
    (runOnce engine session instruction body).code = 1 ↔
      ((session.notebook.run engine instruction body).1.isOk →
        (session.notebook.run engine instruction body).2.status.code < 0) := by
  unfold runOnce
  rcases session.notebook.run engine instruction body with ⟨error | response, notebook⟩
  · simp [Except.isOk, Except.toBool]
  · have hclose := Session.status_close engine { session with notebook }
    dsimp only
    rw [hclose]
    simp [Except.isOk, Except.toBool]

/-- **Which failures show.**  Behind each step that records an error, the status is
that of the error, and its code is negative unless the database has hidden it.  So it
is in the end if a `COMMIT`, a `ROLLBACK` or an `AUTOCOMMIT` is refused.  A call of the
shell whose only statement has failed ends with one unless that failure is hidden. -/
theorem recorded_code_neg_iff (engine : Engine) :
    (∀ error before after, Notebook.Records engine error before after →
        after.status = .ofError error ∧ (after.status.code < 0 ↔ ¬ error.Hidden)) ∧
      (∀ (notebook : Notebook) (line : String) (body : Option String)
        (instruction : Instruction) (request : Connection → Talk Unit) (session : Connection)
        (error : Error),
        (notebook.entry line (Notebook.givenBody body)).1.instruction? = some instruction →
        Notebook.request? engine.database instruction = some request →
        notebook.session = some session →
        ((request session).run notebook.history).1 = .error error →
        ((notebook.run engine line body).2.status.code < 0 ↔ ¬ error.Hidden)) ∧
      ∀ (session : Session) (instruction sql : String) (body : Option String)
        (calls : List Call) (error : Error),
        (session.notebook.entry instruction (Notebook.givenBody body)).1.instruction? =
          some (.sql sql) →
        (session.notebook.run engine instruction body).1.isOk →
        (session.notebook.run engine instruction body).2.history =
          calls ++ session.notebook.history →
        engine.database.answers session.notebook.history calls = [.error error] →
        ((runOnce engine session instruction body).code = 1 ↔ ¬ error.Hidden) := by
  refine ⟨?_, ?_, ?_⟩
  · intro error before after hrecords
    have hstatus := hrecords.status
    refine ⟨hstatus, ?_⟩
    rw [hstatus]
    exact Status.code_ofError_neg_iff error
  · intro notebook line body instruction request session error hentry hrequest hsession hrefused
    rw [Notebook.status_of_refused hentry hrequest hsession hrefused]
    exact Status.code_ofError_neg_iff error
  · intro session instruction sql body calls error hentry hok hhistory hanswers
    -- one answer that is a failure leaves its own status, whatever was there before
    obtain ⟨sent, hsent, -, hstatus⟩ := Notebook.run_reported engine hentry
    have hcalls : sent = calls := List.append_cancel_right (hsent.symm.trans hhistory)
    rw [hcalls, hanswers] at hstatus
    rw [runOnce_code, hstatus, ← Status.code_ofError_neg_iff]
    exact ⟨fun hcode => hcode hok, fun hcode _ => hcode⟩

/-- An engine that refuses a statement and every `COMMIT`, with the given code. -/
def refusing (code : String) : Engine :=
  Script.engine
    { Script.losing "LOST" .prepare (.database (some code) none "no such table: LOST") with
      failures := [(.commit, .database (some code) none "cannot commit")] }

/-- A session whose notebook has not been connected yet. -/
def freshSession : Session where
  notebook := .fresh

/-- The calls of a run whose only statement is refused. -/
def refusedCalls : List Call :=
  [.prepare ⟨.given, 1⟩ "DELETE FROM LOST", .connect ⟨.given, 1⟩]

theorem recorded_code_neg_iff_refusing :
    Notebook.Records (refusing "-204") (.database (some "-204") none "cannot commit") .linked
        ((Action.transact (refusing "-204").database.commit).run .linked).2 ∧
      ((Action.transact (refusing "-204").database.commit).run .linked).2.status.code < 0 ∧
      (Notebook.linked.run (refusing "-204") "commit").2.status.code < 0 ∧
      (refusing "-204").database.answers [] refusedCalls =
        [.error (.database (some "-204") none "no such table: LOST")] ∧
      (runOnce (refusing "-204") freshSession "DELETE FROM LOST" none).code = 1 := by
  obtain ⟨hrecorded, hrefused, hended⟩ := recorded_code_neg_iff (refusing "-204")
  have hshown (message : String) : ¬ (Error.database (some "-204") none message).Hidden :=
    (Status.code_ofError_neg_iff _).mp (show (-204 : Int) < 0 by decide)
  have hrecords : Notebook.Records (refusing "-204") (.database (some "-204") none "cannot commit")
      .linked _ :=
    .transaction (refusing "-204").database.commit rfl rfl
  refine ⟨hrecords, ?_, ?_, rfl, ?_⟩
  · exact (hrecorded _ _ _ hrecords).2.mpr (hshown _)
  · exact (hrefused .linked "commit" none .commit _ _ _
      (by decide +kernel) rfl rfl rfl).mpr (hshown _)
  · exact (hended freshSession "DELETE FROM LOST" "DELETE FROM LOST" none refusedCalls _
      (by decide +kernel) (by decide +kernel) (by decide +kernel) rfl).mpr (hshown _)

/-- A failure with code `1`, as SQLite gives it, shows neither in the status nor in
how the shell ends. -/
theorem recorded_code_not_neg :
    (¬ ∀ engine error before after, Notebook.Records engine error before after →
        after.status.code < 0) ∧
      ¬ ∀ (engine : Engine) (session : Session) (instruction sql : String)
          (body : Option String) (calls : List Call) (error : Error),
        (session.notebook.entry instruction (Notebook.givenBody body)).1.instruction? =
          some (.sql sql) →
        (session.notebook.run engine instruction body).1.isOk →
        (session.notebook.run engine instruction body).2.history =
          calls ++ session.notebook.history →
        engine.database.answers session.notebook.history calls = [.error error] →
        (runOnce engine session instruction body).code = 1 := by
  constructor
  · intro hneg
    have hcode := hneg (refusing "1") _ .linked _
      (.transaction (refusing "1").database.commit rfl rfl)
    exact absurd hcode (by decide)
  · intro hone
    obtain ⟨hok, hhistory⟩ :
        (freshSession.notebook.run (refusing "1") "DELETE FROM LOST").1.isOk ∧
          (freshSession.notebook.run (refusing "1") "DELETE FROM LOST").2.history =
            refusedCalls := by
      decide +kernel
    have hcode := hone (refusing "1") freshSession "DELETE FROM LOST"
      "DELETE FROM LOST" none refusedCalls (.database (some "1") none "no such table: LOST")
      (by decide +kernel) hok (hhistory.trans (List.append_nil _).symm) rfl
    exact absurd hcode (by decide +kernel)

end Shell

end SqlNotebook
