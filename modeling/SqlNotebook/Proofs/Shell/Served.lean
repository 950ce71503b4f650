/-
SqlNotebook/Proofs/Shell/Served.lean

What a session at the prompt serves.  What is entered leads to requests whatever they bring about,
so a session is the requests of its events, served one after the other (`fst_run`).  Of these,
only the request to execute an instruction runs the notebook; the others change its variables at
most (`serve_of_call?_eq_none`).

A line that has been begun and a cell that is open are never there at the same time
(`Reading.Separate.after`).
-/
import SqlNotebook.Shell.Session

namespace SqlNotebook.Shell

/-- The instruction that a request runs, with the body of its cell. -/
def Request.call? : Request → Option (String × Option String)
  | .execute instruction body => some (instruction, body)
  | _ => none

namespace Reading

/-- The requests that what happens at the prompt leads to, up to a request to quit. -/
def served (reading : Reading) : List Event → List Request
  | [] => []
  | event :: rest =>
    match reading.next event with
    | (reading, none) => reading.served rest
    | (reading, some request) =>
      if request = .quit then [] else request :: reading.served rest

/-- What has been begun behind what happens at the prompt. -/
def after (reading : Reading) (events : List Event) : Reading :=
  events.foldl (fun reading event => (reading.next event).1) reading

end Reading

/-! ### A session -/

namespace Session

/-- The session behind requests that are served one after the other. -/
def serveAll (engine : Engine) (session : Session) (requests : List Request) : Session :=
  requests.foldl (fun session request => (session.serve engine request).1) session

variable (engine : Engine) (session : Session)

/-- What runs no instruction changes no more than the variables. -/
theorem serve_of_call?_eq_none {request : Request} (h : request.call? = none) :
    ∃ hostVariables, (session.serve engine request).1 =
      { session with notebook := { session.notebook with hostVariables } } := by
  cases request with
  | execute instruction body => cases h
  | setVariable name value => exact ⟨_, rfl⟩
  | setNothing => exact ⟨session.notebook.hostVariables, rfl⟩
  | listMacros => exact ⟨session.notebook.hostVariables, rfl⟩
  | clearScreen => exact ⟨session.notebook.hostVariables, rfl⟩
  | help => exact ⟨session.notebook.hostVariables, rfl⟩
  | quit => exact ⟨session.notebook.hostVariables, rfl⟩

/-- A session at the prompt serves the requests of its events. -/
theorem fst_run (reading : Reading) (events : List Event) :
    (Dialogue.run engine ⟨session, reading⟩ events).1 =
      (session.serveAll engine (reading.served events)).close engine := by
  induction events generalizing session reading with
  | nil => rfl
  | cons event rest ih =>
    rw [Dialogue.run, Dialogue.step, Reading.served]
    rcases hnext : reading.next event with ⟨next, - | request⟩
    · exact ih session next
    · dsimp only
      by_cases hquit : request = .quit
      · subst hquit
        rfl
      · rw [if_neg hquit, decide_eq_true hquit]
        exact ih _ next

end Session

/-! ### What has been begun -/

namespace Reading

/-- Whether nothing of a line has been entered while a cell is open. -/
def Separate (reading : Reading) : Prop :=
  reading.cell.isSome → reading.pending = ""

theorem Separate.next {reading : Reading} (h : reading.Separate) (event : Event) :
    (reading.next event).1.Separate := by
  cases event with
  | interrupt => exact nofun
  | line text =>
    rw [Reading.next]
    rcases hcell : reading.cell with - | cell
    · dsimp only
      split
      · exact nofun
      · rw [accept]
        split
        · exact nofun
        · split
          · exact fun _ => rfl
          · exact nofun
    · have hpending : reading.pending = "" := h (hcell ▸ rfl)
      dsimp only
      split
      · exact nofun
      · exact fun _ => hpending

theorem Separate.after {reading : Reading} (h : reading.Separate) (events : List Event) :
    (reading.after events).Separate := by
  induction events generalizing reading with
  | nil => exact h
  | cons event rest ih => exact ih (h.next event)

end Reading

end SqlNotebook.Shell
