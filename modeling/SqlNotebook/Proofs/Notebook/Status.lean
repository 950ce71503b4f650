/-
SqlNotebook/Proofs/Notebook/Status.lean

What the status says behind a cell.  It starts with nothing to report and goes
through the answers to the statements.  A failure takes its place, an answer set
without rows changes its code, and any other answer leaves it as it is.  So the
status says how the last statement has ended if that is a failure; otherwise the
statements before it still show, unless there was nothing to report about them.
-/
import SqlNotebook.FanOut.Scripted
import SqlNotebook.Proofs.Notebook.Answers

namespace SqlNotebook

/-- Every error has a text. -/
theorem Error.text_ne_empty (error : Error) : error.text ≠ "" := by
  rcases error with - | - | ⟨- | code, - | state, -⟩ | - | - | - | - | - | -
  all_goals
    dsimp only [text]
    simp

namespace Answer

/-- Whether the answer to a statement is a failure. -/
def failed : Except Error Answer → Bool
  | .error _ => true
  | .ok _ => false

/-- Whether the answer to a statement is an answer set without rows. -/
def lacksRows : Except Error Answer → Bool
  | .ok (.rows table) => table.isEmpty
  | _ => false

end Answer

namespace Status

/-- The status says how a statement with the given answer has ended. -/
def Describes (status : Status) : Except Error Answer → Prop
  | .error error => status = .ofError error
  | .ok (.rows table) =>
    if table.isEmpty then status.code = noRowsCode ∧ status.error = "" else status = {}
  | .ok (.changed _) => status = {}

/-! ### Going through answers -/

/-- The text of a failure stays, whatever comes behind it. -/
theorem error_foldr_eq_empty_iff (answers : List (Except Error Answer)) :
    (answers.foldr afterAnswer {}).error = "" ↔ ∀ answer ∈ answers, ¬ Answer.failed answer := by
  induction answers with
  | nil => simp
  | cons last earlier ih =>
    rw [List.foldr_cons, List.forall_mem_cons, ← ih]
    -- a failure puts a text of its own there, and no other answer touches it
    rcases last with error | table | count
    · simp [afterAnswer, ofError, Answer.failed, error.text_ne_empty]
    · by_cases hempty : table.isEmpty
      · simp [afterAnswer, hempty, Answer.failed]
      · simp [afterAnswer, hempty, Answer.failed]
    · simp [afterAnswer, Answer.failed]

theorem foldr_eq_fresh_iff (answers : List (Except Error Answer)) :
    answers.foldr afterAnswer {} = {} ↔
      ∀ answer ∈ answers, ¬ Answer.failed answer ∧ ¬ Answer.lacksRows answer := by
  induction answers with
  | nil => simp
  | cons last earlier ih =>
    rw [List.foldr_cons, List.forall_mem_cons, ← ih]
    rcases last with error | table | count
    · simp [afterAnswer, ofError, Answer.failed, error.text_ne_empty]
    · by_cases hempty : table.isEmpty
      · simp [afterAnswer, hempty, Answer.failed, Answer.lacksRows, noRowsCode]
      · simp [afterAnswer, hempty, Answer.failed, Answer.lacksRows]
    · simp [afterAnswer, Answer.failed, Answer.lacksRows]

theorem describes_last_iff (last : Except Error Answer) (earlier : List (Except Error Answer)) :
    ((last :: earlier).foldr afterAnswer {}).Describes last ↔
      Answer.failed last ∨ ∀ answer ∈ earlier,
        ¬ Answer.failed answer ∧ (Answer.lacksRows answer → Answer.lacksRows last) := by
  rw [List.foldr_cons]
  rcases last with error | table | count
  · simp [Describes, afterAnswer, Answer.failed]
  · by_cases hempty : table.isEmpty
    · simp [Describes, afterAnswer, Answer.failed, Answer.lacksRows, hempty,
        error_foldr_eq_empty_iff]
    · simp [Describes, afterAnswer, Answer.failed, Answer.lacksRows, hempty,
        foldr_eq_fresh_iff]
  · simp [Describes, afterAnswer, Answer.failed, Answer.lacksRows, foldr_eq_fresh_iff]

end Status

namespace Notebook

/-- A run that comes to SQL reports what its calls have been answered. -/
theorem run_reported (engine : Engine) {notebook : Notebook} {line sql : String}
    {body : Option String}
    (hentry : (notebook.entry line (givenBody body)).1.instruction? = some (.sql sql)) :
    ∃ calls, (notebook.run engine line body).2.history = calls ++ notebook.history ∧
      (engine.database.answers notebook.history calls).length = calls.countP Call.sends ∧
      (notebook.run engine line body).2.status =
        (engine.database.answers notebook.history calls).foldr Status.afterAnswer {} := by
  obtain ⟨text, flags, hrun⟩ := notebook.run_of_instruction engine hentry
  obtain ⟨calls, hcalls⟩ := Action.reports_runCell engine.database
    (if sql = "" then (givenBody body).getD "" else sql) { notebook with flags, status := {} }
  rw [hrun]
  exact ⟨calls, hcalls.history, hcalls.answered, hcalls.status⟩

/-- **The status behind a cell.**  The calls of a run that comes to SQL lie on top of
the history, and each statement among them has its answer.  The status has gone
through the answers; it says how the last statement has ended exactly if that is a
failure, or no statement before it has left a trace. -/
theorem run_status (engine : Engine) (notebook : Notebook) (line sql : String)
    (body : Option String)
    (hentry : (notebook.entry line (givenBody body)).1.instruction? = some (.sql sql)) :
    ∃ calls answers, (notebook.run engine line body).2.history = calls ++ notebook.history ∧
      answers = engine.database.answers notebook.history calls ∧
      answers.length = calls.countP Call.sends ∧
      (notebook.run engine line body).2.status = answers.foldr Status.afterAnswer {} ∧
      ∀ last earlier, answers = last :: earlier →
        ((notebook.run engine line body).2.status.Describes last ↔
          Answer.failed last ∨ ∀ answer ∈ earlier,
            ¬ Answer.failed answer ∧ (Answer.lacksRows answer → Answer.lacksRows last)) := by
  obtain ⟨calls, hhistory, hanswered, hstatus⟩ := run_reported engine hentry
  refine ⟨calls, _, hhistory, rfl, hanswered, hstatus, ?_⟩
  intro last earlier hanswers
  rw [hstatus, hanswers]
  exact Status.describes_last_iff last earlier

/-- An engine that refuses one statement. -/
def lossy : Engine :=
  (Script.losing "LOST" .prepare
    (.database (some "-204") (some "42704") "LOST is an undefined name.")).engine

/-- A statement that is refused in front of one that is not. -/
def lossyLine : String :=
  "DELETE FROM LOST; DELETE FROM FOUND"

/-- A notebook that has not been connected yet. -/
def fresh : Notebook where
  source := some .given

/-- A notebook with an open connection. -/
def linked : Notebook where
  session := some ⟨.given, 1⟩

/-- Of the two statements, only the second one is run. -/
theorem history_lossyLine :
    (fresh.run lossy lossyLine).2.history =
      [.execute ⟨.given, 1⟩ ⟨"DELETE FROM FOUND", []⟩,
        .prepare ⟨.given, 1⟩ "DELETE FROM FOUND", .prepare ⟨.given, 1⟩ "DELETE FROM LOST",
        .connect ⟨.given, 1⟩] := by
  decide +kernel

/-- The failure of the first statement is still there behind the second one. -/
theorem run_status_lossyLine :
    (fresh.entry lossyLine (givenBody none)).1.instruction? = some (.sql lossyLine) ∧
      ∃ calls answers, (fresh.run lossy lossyLine).2.history = calls ++ [] ∧
        answers = lossy.database.answers [] calls ∧
        answers = [.ok (.changed 1),
          .error (.database (some "-204") (some "42704") "LOST is an undefined name.")] ∧
        (fresh.run lossy lossyLine).2.status = answers.foldr Status.afterAnswer {} ∧
        ¬ (fresh.run lossy lossyLine).2.status.Describes (.ok (.changed 1)) := by
  have hentry : (fresh.entry lossyLine (givenBody none)).1.instruction? =
      some (.sql lossyLine) := by
    decide +kernel
  obtain ⟨calls, answers, hhistory, hanswers, -, hstatus, hdescribes⟩ :=
    run_status lossy fresh lossyLine lossyLine none hentry
  have hmade := hhistory.symm.trans history_lossyLine
  rw [show fresh.history = [] from rfl, List.append_nil] at hmade
  subst hmade
  refine ⟨hentry, _, answers, hhistory, hanswers, hanswers, hstatus, fun hlast => ?_⟩
  -- the last statement has not failed, but the one before it has
  rcases (hdescribes _ _ hanswers).mp hlast with hfailed | hkept
  · exact absurd hfailed (by decide)
  · exact (hkept _ List.mem_cons_self).1 (by decide)

/-- A statement that succeeds does not take back what the one before it has left. -/
theorem run_keeps_earlier_failure :
    ¬ ∀ (engine : Engine) (notebook : Notebook) (line sql : String) (body : Option String)
        (calls : List Call) (last : Except Error Answer) (earlier : List (Except Error Answer)),
      (notebook.entry line (givenBody body)).1.instruction? = some (.sql sql) →
      (notebook.run engine line body).1.isOk →
      (notebook.run engine line body).2.history = calls ++ notebook.history →
      engine.database.answers notebook.history calls = last :: earlier →
      (notebook.run engine line body).2.status.Describes last := by
  intro hdescribes
  obtain ⟨hok, hcode⟩ : (fresh.run lossy lossyLine).1.isOk ∧
      (fresh.run lossy lossyLine).2.status.code ≠ 0 := by
    decide +kernel
  have hfresh := hdescribes lossy fresh lossyLine lossyLine none _
    (.ok (.changed 1))
    [.error (.database (some "-204") (some "42704") "LOST is an undefined name.")]
    (by decide +kernel) hok (history_lossyLine.trans (List.append_nil _).symm) rfl
  exact hcode (congrArg Status.code hfresh)

end Notebook

end SqlNotebook
