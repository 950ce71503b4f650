/-
SqlNotebook/Proofs/Notebook/Reset.lean

What `CONNECT RESET` leaves behind.  A notebook is unlinked if no connection is open and
nothing says where one would lead: neither the source nor a URL in the settings.  A
connection is only ever opened by asking where it leads, and that has no answer then:

    unlinked  →  instruction  →  unlinked, without a call

for every instruction but `CONNECT` with a URL, whatever it fails with.  So a notebook that
has been reset calls nothing until it is told a URL, and each instruction for which it would
have to connect ends with the same error (`session_of_reset`).
-/
import SqlNotebook.Proofs.Notebook.Ownership

namespace SqlNotebook

/-- Whether an instruction needs a connection to somewhere that it does not say itself. -/
def Instruction.needsConnection : Instruction → Bool
  | .connect none | .using .. | .sql _ => true
  | _ => false

namespace Notebook

/-- No connection is open, and nothing says where one would lead. -/
structure Unlinked (notebook : Notebook) : Prop where
  session : notebook.session = none
  source : notebook.source = none
  databaseUrl : notebook.settings.databaseUrl = none

/-- Behind an unlinked notebook: it is still unlinked, and nothing has been called. -/
structure StaysUnlinked (before after : Notebook) : Prop where
  unlinked : after.Unlinked
  history : after.history = before.history

variable {notebook later : Notebook}

theorem StaysUnlinked.refl (h : notebook.Unlinked) : notebook.StaysUnlinked notebook :=
  ⟨h, rfl⟩

theorem StaysUnlinked.trans {last : Notebook} (h : notebook.StaysUnlinked later)
    (hmore : later.StaysUnlinked last) : notebook.StaysUnlinked last :=
  ⟨hmore.unlinked, hmore.history.trans h.history⟩

theorem Unlinked.of_same (h : notebook.Unlinked) (hsame : SameConnection notebook later)
    (hurl : later.settings.databaseUrl = notebook.settings.databaseUrl) :
    notebook.StaysUnlinked later :=
  ⟨⟨hsame.session.trans h.session, hsame.source.trans h.source, hurl.trans h.databaseUrl⟩,
    hsame.history⟩

end Notebook

namespace Action

variable {α β : Type} {notebook : Notebook}

/-! ### What an unlinked notebook can do -/

/-- Saving the settings does not change them. -/
theorem settings_saveSettings (notebook : Notebook) :
    (saveSettings.run notebook).2.settings = notebook.settings ∧
      (saveSettings.run notebook).1 ≠ .error noSource := by
  rw [saveSettings, run_bind, run_get]
  dsimp only
  rcases notebook.store with - | text | -
  · exact ⟨rfl, by rintro ⟨⟩⟩
  · exact ⟨rfl, by rintro ⟨⟩⟩
  · exact ⟨rfl, by rintro ⟨⟩⟩

/-- **Nothing says where to connect to**, so no connection is opened. -/
theorem run_ensureConnected_of_unlinked (database : Database) (h : notebook.Unlinked) :
    (ensureConnected database).run notebook = (.error noSource, notebook) := by
  rw [ensureConnected, run_bind, run_get]
  dsimp only
  rw [h.session]
  dsimp only
  rw [run_bind, settleSource, run_bind, run_get]
  dsimp only
  rw [h.source, h.databaseUrl]
  rfl

theorem run_disconnect_of_session_eq_none (database : Database) (h : notebook.session = none) :
    (disconnect database).run notebook = (.ok (), notebook) := by
  rw [disconnect, run_bind, run_get]
  dsimp only
  rw [h]
  rfl

/-- Whether the connection can be closed does not depend on the flags and the status. -/
theorem fst_run_disconnect_of_flags (database : Database) (notebook : Notebook)
    (flags : List String) (status : Status) :
    ((disconnect database).run { notebook with flags, status }).1 =
      ((disconnect database).run notebook).1 := by
  rw [disconnect, run_bind, run_get, run_bind, run_get]
  dsimp only
  rcases notebook.session with - | session
  · rfl
  · rfl

theorem run_transact_of_session_eq_none (request : Connection → Talk Unit)
    (h : notebook.session = none) : (transact request).run notebook = (.ok [], notebook) := by
  rw [transact, run_bind, run_get]
  dsimp only
  rw [h]
  rfl

/-- What comes behind an action that fails does not matter. -/
theorem run_bind_of_error {action : Action α} {next : α → Action β} {error : Error}
    {later : Notebook} (h : action.run notebook = (.error error, later)) :
    (action >>= next).run notebook = (.error error, later) := by
  rw [run_bind, h]

/-- What an action is answered with does not matter to the notebook. -/
theorem snd_run_bind_pure (action : Action α) (answer : α → β) (notebook : Notebook) :
    ((action >>= fun a => (pure (answer a) : Action β)).run notebook).2 =
      (action.run notebook).2 := by
  rw [run_bind]
  rcases action.run notebook with ⟨error | a, later⟩ <;> rfl

/-- Nor does it to the errors. -/
theorem fst_run_bind_pure_eq_error_iff (action : Action α) (answer : α → β) (notebook : Notebook)
    (error : Error) :
    ((action >>= fun a => (pure (answer a) : Action β)).run notebook).1 = .error error ↔
      (action.run notebook).1 = .error error := by
  rw [run_bind]
  rcases action.run notebook with ⟨other | a, later⟩
  · exact ⟨by rintro ⟨⟩; rfl, by rintro ⟨⟩; rfl⟩
  · exact ⟨by rintro ⟨⟩, by rintro ⟨⟩⟩

/-- A notebook without a connection that forgets where to connect to is unlinked, also if the
settings cannot be saved. -/
theorem run_forget (h : notebook.session = none) :
    (forget.run notebook).2.Unlinked ∧ (forget.run notebook).2.history = notebook.history ∧
      (forget.run notebook).1 ≠ .error noSource := by
  rw [forget, run_bind, run_modify]
  dsimp only
  obtain ⟨hsettings, herror⟩ := settings_saveSettings
    { notebook with source := none, settings := { notebook.settings with databaseUrl := none } }
  have hsame := leavesConnection_saveSettings
    { notebook with source := none, settings := { notebook.settings with databaseUrl := none } }
  exact ⟨⟨hsame.session.trans h, hsame.source, by rw [hsettings]⟩, hsame.history, herror⟩

/-- Options do not say where to connect to. -/
theorem run_setOptions_of_unlinked (h : notebook.Unlinked) (words : List String) :
    notebook.StaysUnlinked ((setOptions words).run notebook).2 ∧
      ((setOptions words).run notebook).1 ≠ .error noSource := by
  have hurl := notebook.settings.databaseUrl_applyOptions words
  rw [setOptions, run_bind, run_get]
  dsimp only
  rw [run_bind, run_modify]
  dsimp only
  by_cases hchanged : (notebook.settings.applyOptions words).changed
  · obtain ⟨hsettings, herror⟩ := settings_saveSettings
      { notebook with settings := (notebook.settings.applyOptions words).settings }
    have hsame := leavesConnection_saveSettings
      { notebook with settings := (notebook.settings.applyOptions words).settings }
    rw [if_pos hchanged, snd_run_bind_pure, Ne, fst_run_bind_pure_eq_error_iff]
    exact ⟨h.of_same ⟨hsame.session, hsame.source, hsame.history⟩
      ((congrArg Settings.databaseUrl hsettings).trans hurl), herror⟩
  · rw [if_neg hchanged]
    exact ⟨h.of_same ⟨rfl, rfl, rfl⟩ hurl, by rintro ⟨⟩⟩

/-! ### Instructions -/

variable (engine : Engine)

/-- An instruction that needs a connection is over at once. -/
theorem run_perform_of_needsConnection (h : notebook.Unlinked) (text : String)
    (body : Option String) {instruction : Instruction} (hneeds : instruction.needsConnection = true) :
    (perform engine text body instruction).run notebook = (.error noSource, notebook) := by
  have hconnect := run_ensureConnected_of_unlinked engine.database h
  have hclosed := run_disconnect_of_session_eq_none engine.database h.session
  rcases instruction with name | words | url | unsettle | - | - | on | ⟨name, query⟩ | - | sql
  case connect =>
    rcases url with - | url
    · -- there is nothing to close, and then nowhere to connect to
      have hfails : (connect engine.database none).run notebook = (.error noSource, notebook) := by
        show (disconnect engine.database >>= fun _ =>
          ensureConnected engine.database >>= fun _ => pure ()).run notebook = _
        rw [run_bind, hclosed]
        exact run_bind_of_error hconnect
      exact run_bind_of_error hfails
    · cases hneeds
  case sql => exact run_bind_of_error hconnect
  case «using» => exact run_bind_of_error hconnect
  all_goals cases hneeds

/-- Every other instruction but `CONNECT` with a URL does without one. -/
theorem run_perform_of_not_needsConnection (h : notebook.Unlinked) (text : String)
    (body : Option String) {instruction : Instruction} (hneeds : instruction.needsConnection = false)
    (hurl : ∀ url, instruction ≠ .connect (some url)) :
    let ended := (perform engine text body instruction).run notebook
    notebook.StaysUnlinked ended.2 ∧ ended.1 ≠ .error noSource := by
  have htransact (request : Connection → Talk Unit) :
      (transact request).run notebook = (.ok [], notebook) :=
    run_transact_of_session_eq_none request h.session
  have hclosed := run_disconnect_of_session_eq_none engine.database h.session
  rcases instruction with name | words | url | unsettle | - | - | on | ⟨name, query⟩ | - | sql
  case define =>
    rcases body with - | body
    · exact ⟨.refl h, by rintro ⟨⟩⟩
    · exact ⟨h.of_same ⟨rfl, rfl, rfl⟩ rfl, by rintro ⟨⟩⟩
  case options => exact run_setOptions_of_unlinked h words
  case connect =>
    rcases url with - | url
    · cases hneeds
    · exact absurd rfl (hurl url)
  case disconnect =>
    rw [perform, run_bind, hclosed]
    dsimp only
    cases unsettle with
    | false => exact ⟨.refl h, by rintro ⟨⟩⟩
    | true =>
      obtain ⟨hforgotten, hhistory, herror⟩ := run_forget h.session
      rw [if_pos rfl, snd_run_bind_pure, Ne, fst_run_bind_pure_eq_error_iff]
      exact ⟨⟨hforgotten, hhistory⟩, herror⟩
  case help => exact ⟨.refl h, by rintro ⟨⟩⟩
  case «using» | sql => cases hneeds
  all_goals
    rw [perform, run_bind, htransact]
    exact ⟨.refl h, by rintro ⟨⟩⟩

end Action

namespace Notebook

/-! ### Runs -/

/-- An instruction with its cell body, and what is made of the macros and the host variables
before it is run. -/
structure Round where
  line : String
  body : Option String := none
  macros : MacroTable → MacroTable := id
  hostVariables : Variables → Variables := id

/-- The notebook that an instruction finds. -/
def Round.prepare (round : Round) (notebook : Notebook) : Notebook :=
  { notebook with
    macros := round.macros notebook.macros
    hostVariables := round.hostVariables notebook.hostVariables }

/-- The instruction that a line comes to in the end, behind the expansion of macros. -/
def Round.instruction? (round : Round) (notebook : Notebook) : Option Instruction :=
  ((round.prepare notebook).entry round.line (givenBody round.body)).1.instruction?

/-- Runs the instruction. -/
def Round.run (engine : Engine) (round : Round) (notebook : Notebook) :
    Except Error Response × Notebook :=
  (round.prepare notebook).run engine round.line round.body

/-- The notebook behind instructions that are run one after the other. -/
def behind (engine : Engine) (notebook : Notebook) (rounds : List Round) : Notebook :=
  (notebook.sequence (fun notebook round => round.run engine notebook) rounds).2

variable (engine : Engine) {notebook : Notebook}

theorem perform_fst_eq_error_iff (body : Option String) (text : String) (instruction : Instruction)
    (notices : List Notice) (error : Error) :
    (perform engine body (.asks text instruction notices, notebook)).1 = .error error ↔
      ((Action.perform engine text body instruction).run notebook).1 = .error error := by
  rw [perform]
  rcases (Action.perform engine text body instruction).run notebook with ⟨other | response, later⟩
  · exact Iff.rfl
  · exact ⟨by rintro ⟨⟩, by rintro ⟨⟩⟩

/-- **One instruction on an unlinked notebook**, whatever macros and variables there are. -/
theorem Unlinked.run (h : notebook.Unlinked) (round : Round)
    (hurl : ∀ url, round.instruction? notebook ≠ some (.connect (some url))) :
    notebook.StaysUnlinked (round.run engine notebook).2 ∧
      ∀ instruction, round.instruction? notebook = some instruction →
        ((round.run engine notebook).1 = .error Action.noSource ↔
          instruction.needsConnection = true) := by
  obtain ⟨flags, hkeeps⟩ := (round.prepare notebook).entry_keeps round.line (givenBody round.body)
  have hready : notebook.StaysUnlinked { round.prepare notebook with flags, status := {} } :=
    h.of_same ⟨rfl, rfl, rfl⟩ rfl
  rw [Round.run, run_eq_perform]
  rw [Round.instruction?] at hurl ⊢
  rcases hread : (round.prepare notebook).entry round.line (givenBody round.body) with
    ⟨error | response | ⟨text, asked, notices⟩, ready⟩
  all_goals
    rw [hread] at hurl hkeeps
    obtain rfl : ready = { round.prepare notebook with flags, status := {} } := hkeeps
  -- only an entry that asks for something has an instruction
  · exact ⟨hready, nofun⟩
  · exact ⟨hready, nofun⟩
  · have hasked (url : String) : asked ≠ .connect (some url) :=
      fun heq => hurl url (congrArg some heq)
    cases hneeds : asked.needsConnection with
    | true =>
      have hrun := Action.run_perform_of_needsConnection engine hready.unlinked text
        (givenBody round.body) hneeds
      refine ⟨?_, ?_⟩
      · show notebook.StaysUnlinked ((Action.perform engine text _ asked).run _).2
        rw [hrun]
        exact hready
      · rintro _ ⟨⟩
        rw [perform_fst_eq_error_iff, hrun]
        exact ⟨fun _ => hneeds, fun _ => rfl⟩
    | false =>
      obtain ⟨hstays, herror⟩ := Action.run_perform_of_not_needsConnection engine hready.unlinked
        text (givenBody round.body) hneeds hasked
      refine ⟨hready.trans hstays, ?_⟩
      rintro _ ⟨⟩
      rw [perform_fst_eq_error_iff]
      exact ⟨fun heq => absurd heq herror, fun heq => absurd (hneeds.symm.trans heq) nofun⟩

theorem Unlinked.behind (h : notebook.Unlinked) {rounds : List Round}
    (hurl : ∀ done round rest, rounds = done ++ round :: rest → ∀ url,
      round.instruction? (notebook.behind engine done) ≠ some (.connect (some url))) :
    notebook.StaysUnlinked (notebook.behind engine rounds) :=
  (sequence_keeps notebook.StaysUnlinked (.refl h) fun done round rest hsplit hdone =>
    hdone.trans (hdone.unlinked.run engine round (hurl done round rest hsplit)).1).1

/-- Who resets a notebook, and can close the connection, has unlinked it. -/
theorem unlinked_of_reset {line : String} {body : Option String}
    (hreset : (notebook.entry line (givenBody body)).1.instruction? = some (.disconnect true))
    (hclosed : (notebook.close engine).1 = .ok ()) :
    (notebook.run engine line body).2.Unlinked := by
  obtain ⟨text, flags, hrun⟩ := run_of_instruction engine notebook hreset
  rw [hrun, Action.perform, Action.run_bind]
  have hclosed : ((Action.disconnect engine.database).run { notebook with flags, status := {} }).1 =
      .ok () := by
    rw [Action.fst_run_disconnect_of_flags]
    exact hclosed
  have hsession := Action.session_disconnect engine.database { notebook with flags, status := {} }
  rcases hclose : (Action.disconnect engine.database).run
    { notebook with flags, status := {} } with ⟨error | ⟨⟩, closed⟩
  all_goals rw [hclose] at hclosed hsession
  · cases hclosed
  · dsimp only
    rw [if_pos rfl, Action.snd_run_bind_pure]
    exact (Action.run_forget hsession).1

variable (notebook)

/-- **Nothing connects by itself** behind a `CONNECT RESET` that has closed the connection,
whether the settings could be saved or not.  Further instructions are run, among which no
`CONNECT` with a URL, and in front of each of them macros and host variables may be changed in
any way.  Then no connection is open behind any of them, nothing has been called, and those
that need a connection, and no others, fail because it is not known where to connect to. -/
theorem session_of_reset {line : String} {body : Option String}
    (hreset : (notebook.entry line (givenBody body)).1.instruction? = some (.disconnect true))
    (hclosed : (notebook.close engine).1 = .ok ()) (rounds : List Round)
    (hurl : ∀ done round rest, rounds = done ++ round :: rest → ∀ url,
      round.instruction? ((notebook.run engine line body).2.behind engine done) ≠
        some (.connect (some url))) :
    let reset := (notebook.run engine line body).2
    reset.session = none ∧
      ∀ done round rest, rounds = done ++ round :: rest →
        let run := round.run engine (reset.behind engine done)
        run.2.session = none ∧ run.2.history = reset.history ∧
          ∀ instruction, round.instruction? (reset.behind engine done) = some instruction →
            (run.1 = .error Action.noSource ↔ instruction.needsConnection = true) := by
  intro reset
  have hunlinked : reset.Unlinked := unlinked_of_reset engine hreset hclosed
  refine ⟨hunlinked.session, ?_⟩
  rintro done round rest rfl
  -- the instructions up to here leave the notebook unlinked
  have hdone : reset.StaysUnlinked (reset.behind engine done) := by
    refine hunlinked.behind engine fun front other others hsplit => ?_
    refine hurl front other (others ++ round :: rest) ?_
    rw [hsplit, List.append_assoc, List.cons_append]
  obtain ⟨hstays, hneeds⟩ := hdone.unlinked.run engine round (hurl done round rest rfl)
  exact ⟨hstays.unlinked.session, (hdone.trans hstays).history, hneeds⟩

/-- A notebook with an open connection whose settings cannot be saved. -/
def openUnsaved : Notebook where
  settings := { databaseUrl := some "db2://here" }
  store := .blocked
  source := some .given
  session := some ⟨.given, 1⟩

/-- An option by the name of the URL. -/
def optionRound : Round where
  line := "OPTION DATABASE_URL db2://there"

/-- A new macro that connects. -/
def macroRound : Round where
  line := "go"
  macros := (·.define "go" "CONNECT")

/-- Resetting the notebook fails in the end, and still the macro has nowhere to connect to. -/
theorem session_of_reset_openUnsaved :
    let reset := openUnsaved.run .willing "connect reset"
    (openUnsaved.entry "connect reset" (givenBody none)).1.instruction? = some (.disconnect true) ∧
      (openUnsaved.close .willing).1 = .ok () ∧ reset.1.isOk = false ∧
      (macroRound.run .willing (reset.2.behind .willing [optionRound])).1 =
        .error Action.noSource := by
  intro reset
  have hreset : (openUnsaved.entry "connect reset" (givenBody none)).1.instruction? =
    some (.disconnect true) := by decide +kernel
  have hclosed : (openUnsaved.close .willing).1 = .ok () := by decide +kernel
  have hoption : optionRound.instruction? (reset.2.behind .willing []) =
    some (.options ["DATABASE_URL", "db2://there"]) := by decide +kernel
  have hgo : macroRound.instruction? (reset.2.behind .willing [optionRound]) =
    some (.connect none) := by decide +kernel
  have hurl : ∀ done round rest, [optionRound, macroRound] = done ++ round :: rest → ∀ url,
      round.instruction? (reset.2.behind .willing done) ≠ some (.connect (some url)) := by
    rintro (- | ⟨first, - | ⟨second, done⟩⟩) round rest hsplit url
    · obtain ⟨rfl, -⟩ := List.cons.inj hsplit
      rw [hoption]
      nofun
    · obtain ⟨rfl, hbehind⟩ := List.cons.inj hsplit
      obtain ⟨rfl, -⟩ := List.cons.inj hbehind
      rw [hgo]
      nofun
    · simp at hsplit
  obtain ⟨-, hrounds⟩ := session_of_reset .willing openUnsaved hreset hclosed _ hurl
  obtain ⟨-, -, hneeds⟩ := hrounds [optionRound] macroRound [] rfl
  exact ⟨hreset, hclosed, by decide +kernel, (hneeds _ hgo).mpr rfl⟩

end Notebook

end SqlNotebook
