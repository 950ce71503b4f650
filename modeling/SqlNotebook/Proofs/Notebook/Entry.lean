/-
SqlNotebook/Proofs/Notebook/Entry.lean

What an entered line comes to before anything is done.  Reading a line clears the
flags and the status, takes the flags off, expands the macros and takes off the
flags that they have put in front; this only changes the notebook's flags and
status, and it asks nothing of a database.  What is left is an error, a response
that needs no more work, or an instruction to be carried out:

    run  =  entry, then the instruction if there is one    (`run_eq_perform`)

Lines that are entered one after the other are run on what the ones before them have left
(`sequence`); what each of them keeps therefore holds behind all of them (`sequence_keeps`).
-/
import SqlNotebook.Notebook.Run

namespace SqlNotebook

/-- Takes flags in. -/
def Notebook.withFlags (notebook : Notebook) (flags : List String) : Notebook :=
  { notebook with flags := notebook.flags ++ flags }

namespace Action

variable {α β : Type} (notebook : Notebook)

/-- What holds behind an action, and is kept by what comes next, holds behind the sequence,
also if it ends with the first one. -/
theorem run_bind_keeps (P : Notebook → Prop) {action : Action α} {next : α → Action β}
    (haction : P (action.run notebook).2)
    (hnext : ∀ a changed, P changed → P ((next a).run changed).2) :
    P ((action >>= next).run notebook).2 := by
  rw [run_bind]
  rcases hrun : action.run notebook with ⟨error | a, changed⟩
  all_goals rw [hrun] at haction
  · exact haction
  · exact hnext a changed haction

/-! ### Runs of the first steps -/

theorem run_takeFlags (text : String) :
    (takeFlags text).run notebook =
      (.ok (Flags.split text).1, notebook.withFlags (Flags.split text).2) :=
  rfl

theorem run_expand (text : String) :
    (expand text).run notebook = (notebook.macros.expand text, notebook) := by
  rw [expand, run_bind, run_get]
  rfl

end Action

/-- What an entered line comes to, before anything is done. -/
inductive Entry
  /-- A macro is broken, or the instruction cannot be read. -/
  | failed (error : Error)
  /-- There is nothing more to do. -/
  | settled (response : Response)
  /-- An instruction is to be carried out, whose text is given; macros have reported
  the notices. -/
  | asks (text : String) (instruction : Instruction) (notices : List Notice)

/-- The instruction that is to be carried out. -/
def Entry.instruction? : Entry → Option Instruction
  | asks _ instruction _ => some instruction
  | _ => none

namespace Notebook

/-- What a text comes to whose macros have been expanded and whose flags have been
taken off. -/
def entryOfText (notebook : Notebook) (text : String) (body : Option String)
    (notices : List Notice) : Entry :=
  if text = "?" || notebook.has .help then .settled { outcome := .help, notices }
  else if text = "" && body.isNone then .settled { outcome := .nothing, notices }
  else
    match Instruction.ofText text with
    | .error error => .failed error
    | .ok instruction => .asks text instruction notices

/-- What a line comes to behind the expansion of its macros, and the notebook behind it. -/
def entryOfExpansion (notebook : Notebook) (body : Option String) :
    Except Error Macro.Expansion → Entry × Notebook
  | .error error => (.failed error, notebook)
  | .ok expansion =>
    if expansion.exited then
      (.settled { outcome := .nothing, notices := expansion.notices }, notebook)
    else
      let read := Flags.split expansion.text
      let ready := notebook.withFlags read.2
      (ready.entryOfText read.1 body expansion.notices, ready)

/-- What a line comes to, and the notebook behind it. -/
def entry (notebook : Notebook) (line : String) (body : Option String) : Entry × Notebook :=
  let read := Flags.split (Text.trim (Text.foldNewlines line))
  let started := notebook.begin.withFlags read.2
  started.entryOfExpansion body (started.macros.expand read.1)

theorem entryOfExpansion_keeps (notebook : Notebook) (body : Option String)
    (expanded : Except Error Macro.Expansion) :
    ∃ flags, (notebook.entryOfExpansion body expanded).2 = { notebook with flags } := by
  rcases expanded with error | expansion
  · exact ⟨notebook.flags, rfl⟩
  · rw [entryOfExpansion]
    by_cases hexited : expansion.exited
    · rw [if_pos hexited]
      exact ⟨notebook.flags, rfl⟩
    · rw [if_neg hexited]
      exact ⟨_, rfl⟩

/-- Reading a line sets the flags, and there is nothing to report then.  Everything else
stays as it is. -/
theorem entry_keeps (notebook : Notebook) (line : String) (body : Option String) :
    ∃ flags, (notebook.entry line body).2 = { notebook with flags, status := {} } := by
  rw [entry]
  generalize Flags.split (Text.trim (Text.foldNewlines line)) = read
  exact entryOfExpansion_keeps (notebook.begin.withFlags read.2) body _

/-- The body of a cell, if there is something in it. -/
def givenBody (body : Option String) : Option String :=
  body.filter (!Text.isBlank ·)

/-- What a run makes of what a line has come to. -/
def perform (engine : Engine) (body : Option String) :
    Entry × Notebook → Except Error Response × Notebook
  | (.failed error, notebook) => (.error error, notebook)
  | (.settled response, notebook) => (.ok response, notebook)
  | (.asks text instruction notices, notebook) =>
    let (outcome, later) := (Action.perform engine text body instruction).run notebook
    (outcome.map (·.after notices), later)

variable (engine : Engine) (notebook : Notebook)

theorem run_answer (text : String) (body : Option String) (notices : List Notice) :
    (Action.answer engine text body >>= fun response =>
        (pure (response.after notices) : Action Response)).run notebook =
      perform engine body (notebook.entryOfText text body notices, notebook) := by
  rw [Action.run_bind, Action.answer, Action.run_bind, Action.run_get, entryOfText]
  dsimp only
  by_cases hhelp : text = "?" || notebook.has .help
  · rw [if_pos hhelp, if_pos hhelp, perform, Action.run_pure]
    simp only [Response.after, List.append_nil]
    rfl
  · rw [if_neg hhelp, if_neg hhelp]
    by_cases hnothing : text = "" && body.isNone
    · rw [if_pos hnothing, if_pos hnothing, perform, Action.run_pure]
      simp only [Response.after, List.append_nil]
      rfl
    · rw [if_neg hnothing, if_neg hnothing, Action.run_bind, Action.run_ofExcept]
      rcases Instruction.ofText text with error | instruction
      · rfl
      · dsimp only [perform]
        rcases (Action.perform engine text body instruction).run notebook with
          ⟨error | response, later⟩ <;> rfl

theorem run_expanded (text : String) (body : Option String) :
    (Action.expand text >>= fun expansion =>
        if expansion.exited then
          (pure { outcome := .nothing, notices := expansion.notices } : Action Response)
        else do
          let text ← Action.takeFlags expansion.text
          let response ← Action.answer engine text body
          return response.after expansion.notices).run notebook =
      perform engine body (notebook.entryOfExpansion body (notebook.macros.expand text)) := by
  rw [Action.run_bind, Action.run_expand]
  -- which macros there are does not matter, only what they have made of the text
  generalize notebook.macros.expand text = expanded
  rcases expanded with error | expansion
  · rfl
  · dsimp only [entryOfExpansion]
    by_cases hexited : expansion.exited
    · rw [if_pos hexited, if_pos hexited]
      rfl
    · rw [if_neg hexited, if_neg hexited, Action.run_bind, Action.run_takeFlags]
      exact run_answer engine _ _ _ _

/-- **A run reads the line and then carries the instruction out.** -/
theorem run_eq_perform (line : String) (body : Option String) :
    notebook.run engine line body =
      perform engine (givenBody body) (notebook.entry line (givenBody body)) := by
  rw [run, Action.enter, Action.run_bind, Action.run_modify]
  dsimp only
  rw [Action.run_bind, Action.run_takeFlags]
  dsimp only
  exact run_expanded engine _ _ _

/-- The instruction of a line is carried out with its flags and with nothing to report. -/
theorem run_of_instruction {line : String} {body : Option String} {instruction : Instruction}
    (hentry : (notebook.entry line (givenBody body)).1.instruction? = some instruction) :
    ∃ text flags, (notebook.run engine line body).2 =
      ((Action.perform engine text (givenBody body) instruction).run
        { notebook with flags, status := {} }).2 := by
  obtain ⟨flags, hkeeps⟩ := notebook.entry_keeps line (givenBody body)
  rw [run_eq_perform]
  rcases hread : notebook.entry line (givenBody body) with
    ⟨error | response | ⟨text, asked, notices⟩, ready⟩
  all_goals rw [hread] at hentry hkeeps
  -- only an entry that asks for something has an instruction
  · cases hentry
  · cases hentry
  · cases hentry
    exact ⟨text, flags, hkeeps ▸ rfl⟩

/-! ### One after the other -/

section Sequence

variable {α : Type} {run : Notebook → α → Except Error Response × Notebook}
variable {notebook : Notebook} {items done rest : List α} {item : α}

/-- What is run one after the other: what each item has come to, with the notebook behind it,
and the notebook behind all of them. -/
def sequence (run : Notebook → α → Except Error Response × Notebook) (notebook : Notebook) :
    List α → List (Except Error Response × Notebook) × Notebook
  | [] => ([], notebook)
  | first :: rest =>
    let ended := run notebook first
    let others := sequence run ended.2 rest
    (ended :: others.1, others.2)

/-- An item is run on the notebook that those in front of it have left. -/
theorem mem_sequence (hsplit : items = done ++ item :: rest) :
    run (notebook.sequence run done).2 item ∈ (notebook.sequence run items).1 := by
  subst hsplit
  induction done generalizing notebook with
  | nil => exact List.mem_cons_self
  | cons first done ih => exact List.mem_cons_of_mem _ ih

/-- **What every run keeps** holds behind each of them, and behind all. -/
theorem sequence_keeps (P : Notebook → Prop) (h : P notebook)
    (hrun : ∀ done item rest, items = done ++ item :: rest →
      P (notebook.sequence run done).2 → P (run (notebook.sequence run done).2 item).2) :
    P (notebook.sequence run items).2 ∧ ∀ ended ∈ (notebook.sequence run items).1, P ended.2 := by
  induction items generalizing notebook with
  | nil => exact ⟨h, List.forall_mem_nil _⟩
  | cons first items ih =>
    have hfirst : P (run notebook first).2 := hrun [] first items rfl h
    obtain ⟨hbehind, hothers⟩ := ih hfirst fun done item rest hsplit =>
      hrun (first :: done) item rest (by rw [hsplit, List.cons_append])
    exact ⟨hbehind, List.forall_mem_cons.mpr ⟨hfirst, hothers⟩⟩

end Sequence

end Notebook

end SqlNotebook
