/-
SqlNotebook/Proofs/Notebook/Reporting.lean

The flags that only affect what is reported: `-q` leaves messages out, and `-e` shows
the SQL that is sent.  A run with one of them in front of the line is compared with the
run without it.  Both go the same way, since nobody asks for these flags but to decide
on a notice:

    run line     notebook            →  outcome, later
    run -q line  notebook            →  the same outcome, later with the flag in front

`Action.Mirrors` says this of two actions that are run from notebooks which differ by
the flag; it is closed under sequences, so that it holds of an instruction if it holds
of the steps.  The notices of one run are among those of the other (`Flag.Reports`).
-/
import SqlNotebook.Proofs.Notebook.LineAndBody

namespace SqlNotebook

variable {α β : Type} {flag : Flag} {form : String}

/-! ### The flags of a notebook -/

/-- Whether a flag only affects what is reported. -/
def Flag.isReporting : Flag → Bool
  | quiet => true
  | echo => true
  | _ => false

/-- No form belongs to two flags. -/
theorem Flag.contains_forms (hform : form ∈ flag.forms) (other : Flag) :
    other.forms.contains form = decide (flag = other) := by
  -- two forms of each flag against all flags
  cases flag with
  | _ =>
    simp only [forms, List.mem_cons, List.not_mem_nil, or_false] at hform
    rcases hform with rfl | rfl
    · cases other <;> rfl
    · cases other <;> rfl

/-- A flag is a minus sign with something behind it that has no blanks. -/
theorem Flag.exists_letters (hform : form ∈ flag.forms) :
    ∃ letters, form.toList = '-' :: letters ∧ ∀ c ∈ letters, ¬ Chars.isBlank c := by
  have hletters : form.toList = '-' :: form.toList.tail ∧
      form.toList.tail.any Chars.isBlank = false := by
    cases flag with
    | _ =>
      simp only [forms, List.mem_cons, List.not_mem_nil, or_false] at hform
      rcases hform with rfl | rfl
      · exact ⟨rfl, rfl⟩
      · exact ⟨rfl, rfl⟩
  exact ⟨_, hletters.1, List.any_eq_false.mp hletters.2⟩

namespace Notebook

/-- The notebook with one more flag, in front of all others. -/
def flagged (form : String) (notebook : Notebook) : Notebook :=
  { notebook with flags := form :: notebook.flags }

theorem has_flagged (hform : form ∈ flag.forms) (notebook : Notebook) (other : Flag) :
    (notebook.flagged form).has other = (decide (flag = other) || notebook.has other) := by
  rw [has, hasAny, flagged, List.any_cons, flag.contains_forms hform]
  rfl

/-- A flag that only affects what is reported is not mistaken for one that does more. -/
theorem has_flagged_of_not_isReporting (hflag : flag.isReporting) (hform : form ∈ flag.forms)
    (notebook : Notebook) (other : Flag) (hother : ¬ other.isReporting) :
    (notebook.flagged form).has other = notebook.has other := by
  have hne : flag ≠ other := by
    rintro rfl
    exact hother hflag
  rw [has_flagged hform, decide_eq_false hne, Bool.false_or]

end Notebook

/-! ### Notices with a flag and without it -/

/-- How the notices with a flag compare with those without it. -/
def Flag.Reports (flag : Flag) (plain flagged : List Notice) : Prop :=
  match flag with
  | quiet => flagged.Sublist plain
  | echo => plain.Sublist flagged
  | _ => flagged = plain

namespace Flag.Reports

variable {plain flagged morePlain moreFlagged : List Notice}

theorem refl (flag : Flag) (notices : List Notice) : flag.Reports notices notices := by
  cases flag with
  | quiet | echo => exact List.Sublist.refl notices
  | _ => rfl

theorem append (h : flag.Reports plain flagged) (hmore : flag.Reports morePlain moreFlagged) :
    flag.Reports (plain ++ morePlain) (flagged ++ moreFlagged) := by
  cases flag with
  | quiet | echo => exact List.Sublist.append h hmore
  | _ => exact congrArg₂ (· ++ ·) h hmore

/-- What is left out if it is to be quiet. -/
theorem unless_quiet (hflag : flag.isReporting) (hform : form ∈ flag.forms) (notebook : Notebook)
    (notices : List Notice) :
    flag.Reports (if notebook.has .quiet then [] else notices)
      (if (notebook.flagged form).has .quiet then [] else notices) := by
  rw [Notebook.has_flagged hform]
  cases flag with
  | quiet => exact List.nil_sublist _
  | echo => exact List.Sublist.refl _
  | _ => cases hflag

/-- What is only shown on demand. -/
theorem if_echo (hflag : flag.isReporting) (hform : form ∈ flag.forms) (notebook : Notebook)
    (notices : List Notice) :
    flag.Reports (if notebook.has .echo then notices else [])
      (if (notebook.flagged form).has .echo then notices else []) := by
  rw [Notebook.has_flagged hform]
  cases flag with
  | quiet => exact List.Sublist.refl _
  | echo =>
    show (if notebook.has .echo then notices else []).Sublist notices
    split
    · exact List.Sublist.refl notices
    · exact List.nil_sublist notices
  | _ => cases hflag

end Flag.Reports

/-- Responses with the same outcome. -/
structure Response.Reports (flag : Flag) (plain flagged : Response) : Prop where
  outcome : flagged.outcome = plain.outcome
  notices : flag.Reports plain.notices flagged.notices

namespace Response.Reports

variable {plain flagged : Response}

theorem refl (flag : Flag) (response : Response) : response.Reports flag response :=
  ⟨rfl, .refl flag _⟩

theorem after (h : plain.Reports flag flagged) {notices moreNotices : List Notice}
    (hnotices : flag.Reports notices moreNotices) :
    (plain.after notices).Reports flag (flagged.after moreNotices) :=
  ⟨h.outcome, hnotices.append h.notices⟩

end Response.Reports

/-- Cells that have come to the same so far. -/
structure Progress.Reports (flag : Flag) (plain flagged : Progress) : Prop where
  affected : flagged.affected = plain.affected
  outcome : flagged.outcome = plain.outcome
  notices : flag.Reports plain.notices flagged.notices

namespace Progress

theorem report_nil (progress : Progress) : progress.report [] = progress := by
  rw [report, List.append_nil]

namespace Reports

variable {plain flagged : Progress}

theorem refl (flag : Flag) (progress : Progress) : progress.Reports flag progress :=
  ⟨rfl, rfl, .refl flag _⟩

theorem report (h : plain.Reports flag flagged) {notices moreNotices : List Notice}
    (hnotices : flag.Reports notices moreNotices) :
    (plain.report notices).Reports flag (flagged.report moreNotices) :=
  ⟨h.affected, h.outcome, h.notices.append hnotices⟩

theorem report_unless_quiet (hflag : flag.isReporting) (hform : form ∈ flag.forms)
    (notebook : Notebook) (h : plain.Reports flag flagged) (notices : List Notice) :
    Reports flag (if notebook.has .quiet then plain else plain.report notices)
      (if (notebook.flagged form).has .quiet then flagged else flagged.report notices) := by
  have hreport := h.report (.unless_quiet hflag hform notebook notices)
  rwa [apply_ite plain.report, apply_ite flagged.report, report_nil, report_nil] at hreport

theorem report_if_echo (hflag : flag.isReporting) (hform : form ∈ flag.forms)
    (notebook : Notebook) (h : plain.Reports flag flagged) (notices : List Notice) :
    Reports flag (if notebook.has .echo then plain.report notices else plain)
      (if (notebook.flagged form).has .echo then flagged.report notices else flagged) := by
  have hreport := h.report (.if_echo hflag hform notebook notices)
  rwa [apply_ite plain.report, apply_ite flagged.report, report_nil, report_nil] at hreport

theorem finish (hflag : flag.isReporting) (hform : form ∈ flag.forms) (notebook : Notebook)
    (h : plain.Reports flag flagged) :
    (plain.finish (notebook.has .quiet)).Reports flag
      (flagged.finish ((notebook.flagged form).has .quiet)) := by
  refine ⟨h.outcome, ?_⟩
  rw [Progress.finish, Progress.finish]
  dsimp only
  rw [h.outcome]
  rcases plain.outcome with - | - | - | - | affected | - | - | - | - | - | -
  case completed =>
    have hcompleted := h.notices.append
      (.unless_quiet hflag hform notebook [.info "Command completed."])
    rwa [apply_ite (plain.notices ++ ·), apply_ite (flagged.notices ++ ·), List.append_nil,
      List.append_nil] at hcompleted
  all_goals exact h.notices

end Reports

end Progress

/-- The same way on behind a statement. -/
inductive CellStep.Reports (flag : Flag) : CellStep → CellStep → Prop
  | next {plain flagged : Progress} (h : plain.Reports flag flagged) :
      Reports flag (.next plain) (.next flagged)
  | shown {plain flagged : Response} (h : plain.Reports flag flagged) :
      Reports flag (.shown plain) (.shown flagged)

namespace Action

/-! ### Actions that go the same way -/

/-- The same failure, or values that are alike. -/
inductive EndsAlike (Alike : α → α → Prop) : Except Error α → Except Error α → Prop
  | failed (error : Error) : EndsAlike Alike (.error error) (.error error)
  | ended {a b : α} (h : Alike a b) : EndsAlike Alike (.ok a) (.ok b)

theorem EndsAlike.map {Alike After : α → α → Prop} {plain flagged : Except Error α}
    (h : EndsAlike Alike plain flagged) {f : α → α} (hf : ∀ a b, Alike a b → After (f a) (f b)) :
    EndsAlike After (plain.map f) (flagged.map f) := by
  cases h with
  | failed error => exact .failed error
  | ended h => exact .ended (hf _ _ h)

/-- With one more flag in front, `flagged` does what `plain` does without it. -/
def Mirrors (form : String) (Alike : α → α → Prop) (plain flagged : Action α) : Prop :=
  ∀ notebook : Notebook,
    (flagged.run (notebook.flagged form)).2 = (plain.run notebook).2.flagged form ∧
      EndsAlike Alike (plain.run notebook).1 (flagged.run (notebook.flagged form)).1

/-- An action to which one more flag makes no difference. -/
def Ignores (form : String) (action : Action α) : Prop :=
  Mirrors form Eq action action

namespace Mirrors

variable {Alike : α → α → Prop} {plain flagged : Action α}

theorem pure {a b : α} (h : Alike a b) :
    Mirrors form Alike (pure a : Action α) (Pure.pure b : Action α) :=
  fun _ => ⟨rfl, .ended h⟩

theorem get :
    Mirrors form (fun notebook flagged => flagged = notebook.flagged form)
      (get : Action Notebook) get :=
  fun _ => ⟨rfl, .ended rfl⟩

theorem bind {After : β → β → Prop} {next flaggedNext : α → Action β}
    (h : Mirrors form Alike plain flagged)
    (hnext : ∀ a b, Alike a b → Mirrors form After (next a) (flaggedNext b)) :
    Mirrors form After (plain >>= next) (flagged >>= flaggedNext) := by
  intro notebook
  obtain ⟨hlater, hends⟩ := h notebook
  rw [run_bind, run_bind]
  rcases hplain : plain.run notebook with ⟨outcome, later⟩
  rcases hflagged : flagged.run (notebook.flagged form) with ⟨flaggedOutcome, flaggedLater⟩
  rw [hplain, hflagged] at hlater hends
  obtain rfl : flaggedLater = later.flagged form := hlater
  -- what comes next begins at notebooks that differ by the flag again
  cases hends with
  | failed error => exact ⟨rfl, .failed error⟩
  | ended hvalues => exact hnext _ _ hvalues later

theorem mono {Wider : α → α → Prop} (h : Mirrors form Alike plain flagged)
    (hwider : ∀ a b, Alike a b → Wider a b) : Mirrors form Wider plain flagged := by
  intro notebook
  obtain ⟨hlater, hends⟩ := h notebook
  refine ⟨hlater, ?_⟩
  generalize (plain.run notebook).1 = outcome at hends ⊢
  generalize (flagged.run (notebook.flagged form)).1 = flaggedOutcome at hends ⊢
  cases hends with
  | failed error => exact .failed error
  | ended hvalues => exact .ended (hwider _ _ hvalues)

/-- What the notebook is asked may be answered in two ways, but for the flag. -/
theorem bind_get {After : β → β → Prop} {next flaggedNext : Notebook → Action β}
    (hnext : ∀ notebook, Mirrors form After (next notebook) (flaggedNext (notebook.flagged form))) :
    Mirrors form After (MonadState.get >>= next) (MonadState.get >>= flaggedNext) := by
  apply get.bind
  rintro notebook _ rfl
  exact hnext notebook

end Mirrors

namespace Ignores

variable {action : Action α}

theorem throw (error : Error) : Ignores form (throw error : Action α) :=
  fun _ => ⟨rfl, .failed error⟩

theorem modify {change : Notebook → Notebook}
    (h : ∀ notebook, change (notebook.flagged form) = (change notebook).flagged form) :
    Ignores form (modify change : Action Unit) :=
  fun notebook => ⟨h notebook, .ended rfl⟩

theorem ofExcept (outcome : Except Error α) : Ignores form (ofExcept outcome) := by
  intro notebook
  refine ⟨rfl, ?_⟩
  rcases outcome with error | a
  · exact .failed error
  · exact .ended rfl

/-- What is said to a database does not depend on flags. -/
theorem ofTalk (talk : Talk α) : Ignores form (ofTalk talk) := by
  intro notebook
  refine ⟨rfl, ?_⟩
  rw [run_ofTalk, run_ofTalk]
  show EndsAlike Eq (talk.run notebook.history).1 (talk.run notebook.history).1
  rcases (talk.run notebook.history).1 with error | a
  · exact .failed error
  · exact .ended rfl

theorem attempt (h : Ignores form action) : Ignores form (attempt action) := by
  intro notebook
  obtain ⟨hlater, hends⟩ := h notebook
  refine ⟨hlater, .ended ?_⟩
  generalize (action.run notebook).1 = outcome at hends ⊢
  generalize (action.run (notebook.flagged form)).1 = flaggedOutcome at hends ⊢
  cases hends with
  | failed error => rfl
  | ended h => rw [h]

theorem bind {After : β → β → Prop} {next flaggedNext : α → Action β} (h : Ignores form action)
    (hnext : ∀ a, Mirrors form After (next a) (flaggedNext a)) :
    Mirrors form After (action >>= next) (action >>= flaggedNext) := by
  apply Mirrors.bind h
  rintro a _ rfl
  exact hnext a

end Ignores

/-- An action that reports the same. -/
theorem Ignores.reports {action : Action Response} (h : Ignores form action) :
    Mirrors form (Response.Reports flag) action action :=
  Mirrors.mono h fun response _ heq => heq ▸ .refl flag response

/-! ### The connection and the settings -/

variable (database : Database)

theorem ignores_saveSettings : Ignores form saveSettings := by
  apply Mirrors.bind_get
  intro notebook
  rw [show (notebook.flagged form).store = notebook.store from rfl]
  rcases notebook.store with - | text | -
  · exact .pure rfl
  · exact fun _ => ⟨rfl, .ended rfl⟩
  · exact Ignores.throw _

theorem ignores_settleSource : Ignores form settleSource := by
  apply Mirrors.bind_get
  intro notebook
  rw [show (notebook.flagged form).source = notebook.source from rfl,
    show (notebook.flagged form).settings = notebook.settings from rfl]
  rcases notebook.source with - | source
  · rcases notebook.settings.databaseUrl with - | url
    · exact Ignores.throw _
    · exact Mirrors.bind (fun _ => ⟨rfl, .ended rfl⟩) fun _ _ _ => .pure rfl
  · exact .pure rfl

theorem ignores_ensureConnected : Ignores form (ensureConnected database) := by
  apply Mirrors.bind_get
  intro notebook
  rw [show (notebook.flagged form).session = notebook.session from rfl]
  rcases notebook.session with - | session
  · exact ignores_settleSource.bind fun source => (Ignores.ofTalk _).bind fun session =>
      Ignores.bind (.modify fun _ => rfl) fun _ => .pure rfl
  · exact .pure rfl

theorem ignores_disconnect : Ignores form (disconnect database) := by
  apply Mirrors.bind_get
  intro notebook
  rw [show (notebook.flagged form).session = notebook.session from rfl]
  rcases notebook.session with - | session
  · exact .pure rfl
  · exact Ignores.bind (.modify fun _ => rfl) fun _ => Ignores.ofTalk _

theorem ignores_remember (url : String) : Ignores form (remember url) :=
  Ignores.bind (.modify fun _ => rfl) fun _ => ignores_saveSettings

theorem ignores_forget : Ignores form forget :=
  Ignores.bind (.modify fun _ => rfl) fun _ => ignores_saveSettings

theorem ignores_connect (url : Option String) : Ignores form (connect database url) := by
  have hconnect : Ignores form (do disconnect database; let _ ← ensureConnected database) :=
    (ignores_disconnect database).bind fun _ =>
      (ignores_ensureConnected database).bind fun _ => .pure rfl
  rcases url with - | url
  · exact hconnect
  · exact (ignores_remember url).bind fun _ => hconnect

theorem ignores_record (error : Error) : Ignores form (record error) :=
  .modify fun _ => rfl

theorem ignores_transact (request : Connection → Talk Unit) : Ignores form (transact request) := by
  apply Mirrors.bind_get
  intro notebook
  rw [show (notebook.flagged form).session = notebook.session from rfl]
  rcases notebook.session with - | session
  · exact .pure rfl
  · apply (Ignores.ofTalk (request session)).attempt.bind
    intro outcome
    rcases outcome with error | -
    · exact (ignores_record error).bind fun _ => .pure rfl
    · exact .pure rfl

theorem ignores_define (name : String) (body : Option String) (size : Nat) :
    Ignores form (define name body size) := by
  rcases body with - | body
  · exact Ignores.throw _
  · exact Ignores.bind (.modify fun _ => rfl) fun _ => .pure rfl

theorem ignores_setOptions (words : List String) : Ignores form (setOptions words) := by
  apply Mirrors.bind_get
  intro notebook
  rw [show (notebook.flagged form).settings = notebook.settings from rfl]
  refine Ignores.bind (.modify fun _ => rfl) fun _ => ?_
  by_cases hchanged : (notebook.settings.applyOptions words).changed
  · simp only [hchanged, if_true]
    exact ignores_saveSettings.bind fun _ => .pure rfl
  · simp only [hchanged]
    exact .pure rfl

/-! ### Statements -/

theorem ignores_takeFlags (text : String) : Ignores form (takeFlags text) :=
  Ignores.bind (.modify fun _ => rfl) fun _ => .pure rfl

theorem ignores_expand (text : String) : Ignores form (expand text) := by
  apply Mirrors.bind_get
  intro notebook
  exact Ignores.ofExcept (notebook.macros.expand text)

theorem ignores_readStatement (statement : String) : Ignores form (readStatement statement) := by
  apply (ignores_expand statement).bind
  intro expansion
  by_cases hexited : expansion.exited
  · rw [if_pos hexited]
    exact .pure rfl
  · rw [if_neg hexited]
    apply (ignores_takeFlags expansion.text).bind
    intro text
    apply Mirrors.bind_get
    exact fun notebook => .pure rfl

section Reporting

variable (hflag : flag.isReporting) (hform : form ∈ flag.forms)
include hflag hform

theorem mirrors_present (table : ResultTable) :
    Mirrors form (Response.Reports flag) (present table) (present table) := by
  have hnoted (notebook : Notebook) :
      (notebook.flagged form).noteSize table = (notebook.noteSize table).flagged form := by
    rw [Notebook.noteSize, Notebook.noteSize]
    split <;> rfl
  apply (Ignores.modify hnoted).bind
  intro _
  apply Mirrors.bind_get
  intro notebook
  apply Mirrors.pure
  have hhas := notebook.has_flagged_of_not_isReporting hflag hform
  -- in which form rows are shown is not a matter of these flags, only what is said of none
  rw [Notebook.shown, Notebook.shown, hhas .documents Bool.false_ne_true,
    hhas .raw Bool.false_ne_true, hhas .all Bool.false_ne_true]
  split
  · exact .refl flag _
  split
  · exact .refl flag _
  split
  · exact ⟨rfl, .unless_quiet hflag hform notebook [.error "No rows found"]⟩
  · exact .refl flag _

theorem mirrors_settle {progress other : Progress} (h : progress.Reports flag other)
    (answer : Except Error Answer) :
    Mirrors form (CellStep.Reports flag) (settle progress answer) (settle other answer) := by
  rcases answer with error | table | count
  · apply (ignores_record error).bind
    intro _
    apply Mirrors.bind_get
    intro notebook
    have hreported := h.report_unless_quiet hflag hform notebook [.error error.text]
    apply Mirrors.pure
    exact .next ⟨hreported.affected, congrArg Outcome.completed hreported.affected,
      hreported.notices⟩
  · apply (mirrors_present hflag hform table).bind
    intro response shown hresponse
    rw [hresponse.outcome]
    rcases response.outcome
    case noRows => exact .pure (.next ⟨h.affected, rfl, h.notices.append hresponse.notices⟩)
    all_goals exact .pure (.shown (hresponse.after h.notices))
  · apply Mirrors.bind_get
    intro notebook
    have hreported : Progress.Reports flag
        (if count = 0 && !notebook.has .quiet then progress.report [.error "No rows found."]
          else progress)
        (if count = 0 && !(notebook.flagged form).has .quiet then
          other.report [.error "No rows found."] else other) := by
      by_cases hcount : count = 0
      · simp only [hcount, decide_true, Bool.true_and, Bool.not_eq_true', ← Bool.not_eq_true,
          ite_not]
        exact h.report_unless_quiet hflag hform notebook [.error "No rows found."]
      · simpa [hcount] using h
    apply Mirrors.pure
    have haffected : other.affected + count = progress.affected + count := by rw [h.affected]
    exact .next ⟨haffected, congrArg Outcome.completed haffected, hreported.notices⟩

theorem mirrors_runStatement (session : Connection) {progress other : Progress}
    (h : progress.Reports flag other) (statement : String) :
    Mirrors form (CellStep.Reports flag) (runStatement database session progress statement)
      (runStatement database session other statement) := by
  apply (ignores_readStatement statement).bind
  rintro ⟨notices, sql⟩
  have hread := h.report (.refl flag notices)
  rcases sql with - | sql
  · exact .pure (.next hread)
  · apply Mirrors.bind_get
    intro notebook
    apply (Ignores.ofTalk (database.send session sql)).attempt.bind
    intro answer
    exact mirrors_settle hflag hform (hread.report_if_echo hflag hform notebook [.info sql]) answer

theorem mirrors_runStatements (session : Connection) (statements : List String)
    {progress other : Progress} (h : progress.Reports flag other) :
    Mirrors form (Response.Reports flag) (runStatements database session progress statements)
      (runStatements database session other statements) := by
  -- both runs end behind the same statement, since it is shown in both or in neither
  induction statements generalizing progress other with
  | nil =>
    apply Mirrors.bind_get
    intro notebook
    exact .pure (h.finish hflag hform notebook)
  | cons statement rest ih =>
    apply (mirrors_runStatement database hflag hform session h statement).bind
    intro step otherStep hstep
    cases hstep with
    | next hprogress => exact ih hprogress
    | shown hresponse => exact .pure hresponse

theorem mirrors_runCell (sql : String) :
    Mirrors form (Response.Reports flag) (runCell database sql) (runCell database sql) := by
  apply (ignores_ensureConnected database).bind
  intro session
  apply Mirrors.bind_get
  intro notebook
  rw [notebook.has_flagged_of_not_isReporting hflag hform .delimiter Bool.false_ne_true]
  exact mirrors_runStatements database hflag hform session _ (.refl flag {})

/-! ### Instructions -/

variable (engine : Engine)

theorem mirrors_runUsing (name query : String) :
    Mirrors form (Response.Reports flag) (runUsing engine name query)
      (runUsing engine name query) := by
  refine (ignores_ensureConnected engine.database).bind fun session =>
    ignores_settleSource.bind fun source => Mirrors.bind_get fun notebook =>
      Ignores.bind (.ofExcept (notebook.fanOut? name query)) fun request =>
        (Ignores.ofTalk _).attempt.bind fun outcome => ?_
  rcases outcome with error | report
  · exact (ignores_record error).bind fun _ => (Ignores.throw error).reports
  · apply Mirrors.bind_get
    intro notebook
    apply (mirrors_present hflag hform report.table).bind
    intro response shown hresponse
    exact .pure (hresponse.after (.if_echo hflag hform notebook (report.issued.map .info)))

/-- **An instruction goes the same way with one of the flags and without it.** -/
theorem mirrors_perform (text : String) (body : Option String) (instruction : Instruction) :
    Mirrors form (Response.Reports flag) (perform engine text body instruction)
      (perform engine text body instruction) := by
  rcases instruction with name | words | url | unsettle | - | - | on | ⟨name, query⟩ | - | sql
  · exact (ignores_define name body _).reports
  · exact (ignores_setOptions words).reports
  · exact (ignores_connect engine.database url).bind fun _ => .pure (.refl flag _)
  · apply (ignores_disconnect engine.database).bind
    intro _
    cases unsettle with
    | true => exact ignores_forget.bind fun _ => .pure (.refl flag _)
    | false => exact .pure (.refl flag _)
  · exact (ignores_transact _).bind fun _ => .pure (.refl flag _)
  · exact (ignores_transact _).bind fun _ => .pure (.refl flag _)
  · exact (ignores_transact _).bind fun _ => .pure (.refl flag _)
  · exact mirrors_runUsing hflag hform engine name query
  · exact .pure (.refl flag _)
  · exact mirrors_runCell engine.database hflag hform _

end Reporting

end Action

/-! ### The flag on the line -/

namespace Chars

/-- What stands in front of a text that ends with no blank is not trimmed at the end. -/
theorem trimEnd_append {s : List Char} (hs : s ≠ []) (htrim : trimEnd s = s) (t : List Char) :
    trimEnd (t ++ s) = t ++ s := by
  have hlast : ¬ isBlank (s.getLast hs) := List.rdropWhile_eq_self_iff.mp htrim hs
  apply List.rdropWhile_eq_self_iff.mpr
  intro hne
  rwa [List.getLast_append_of_ne_nil hne hs]

/-- A word in front of a text that has been trimmed is kept, and so is the space between
them, unless there is nothing behind it. -/
theorem trim_word_append {word s : List Char} (hword : ∀ c ∈ word, ¬ isBlank c)
    (hne : word ≠ []) (htrim : trim s = s) :
    trim (word ++ ' ' :: s) = if s = [] then word else word ++ ' ' :: s := by
  by_cases hs : s = []
  · -- the space is at the end and goes with it
    subst hs
    rw [if_pos rfl, trim_append_blanks (by decide), trim_of_not_isBlank hword]
  · have hstart : trimStart (word ++ ' ' :: s) = word ++ ' ' :: s := by
      apply trimStart_of_head?
      intro c hc
      rw [List.head?_append_of_ne_nil _ hne] at hc
      exact hword c (List.mem_of_head? hc)
    have hend : trimEnd s = s := by
      rw [← htrim]
      exact List.rdropWhile_idempotent isBlank _
    rw [if_neg hs, trim, hstart, List.append_cons]
    exact trimEnd_append hs hend _

end Chars

namespace Flags

/-- **A flag in front of a line is one more flag, and the line is read as without it.** -/
theorem split_asLine_flagged (hform : form ∈ flag.forms) {line : String}
    (htrim : Text.trim line = line) :
    split (Text.asLine (form ++ " " ++ line)) =
      ((split (Text.asLine line)).1, form :: (split (Text.asLine line)).2) := by
  obtain ⟨letters, hletters, hblank⟩ := Flag.exists_letters hform
  have hword : ∀ c ∈ form.toList, ¬ Chars.isBlank c := by
    rw [hletters]
    exact List.forall_mem_cons.mpr ⟨by decide, hblank⟩
  have hline : Chars.trim line.toList = line.toList := by
    rw [← Text.toList_trim, htrim]
  have hnewline : '\n' ∉ form.toList := fun hmem => hword _ hmem (by decide)
  -- the line as it is read, with the flag and without it
  have hplain : (Text.asLine line).toList = line.toList.map Chars.unbroken := by
    rw [Text.toList_asLine, htrim]
  have hflagged : (Text.asLine (form ++ " " ++ line)).toList =
      if line.toList = [] then form.toList
      else form.toList ++ ' ' :: line.toList.map Chars.unbroken := by
    rw [Text.toList_asLine, Text.toList_trim, String.toList_append, String.toList_append,
      List.append_assoc, show " ".toList ++ line.toList = ' ' :: line.toList from rfl,
      Chars.trim_word_append hword (by simp [hletters]) hline,
      apply_ite (List.map Chars.unbroken), List.map_append,
      Chars.map_unbroken_of_not_mem hnewline]
    rfl
  have hspace : ' ' ∉ letters := fun h => hblank ' ' h (by decide)
  obtain ⟨hend, hmore⟩ :=
    splitChars_some hspace ['-'] (line.toList.map Chars.unbroken)
  rw [List.singleton_append, ← hletters, String.ofList_toList] at hend hmore
  have hminus (s : List Char) : splitChars none ('-' :: s) = splitChars (some ['-']) s := by
    rw [splitChars, if_neg (by decide), if_pos rfl]
  rw [split, split, hflagged, hplain]
  by_cases hempty : line.toList = []
  · rw [if_pos hempty, hempty, hletters, hminus, hend]
    rfl
  · rw [if_neg hempty, hletters, List.cons_append, hminus, hmore]

end Flags

namespace Notebook

/-! ### Runs with the flag and without it -/

theorem perform_asks (engine : Engine) (body : Option String) (text : String)
    (instruction : Instruction) (notices : List Notice) (notebook : Notebook) :
    perform engine body (.asks text instruction notices, notebook) =
      (((Action.perform engine text body instruction).run notebook).1.map (·.after notices),
        ((Action.perform engine text body instruction).run notebook).2) := rfl

section Reporting

variable (hflag : flag.isReporting) (hform : form ∈ flag.forms) (notebook : Notebook)
include hflag hform

theorem entryOfText_flagged (text : String) (body : Option String) (notices : List Notice) :
    (notebook.flagged form).entryOfText text body notices =
      notebook.entryOfText text body notices := by
  rw [entryOfText, entryOfText,
    notebook.has_flagged_of_not_isReporting hflag hform .help Bool.false_ne_true]

theorem entryOfExpansion_flagged (body : Option String) (expanded : Except Error Macro.Expansion) :
    (notebook.flagged form).entryOfExpansion body expanded =
      ((notebook.entryOfExpansion body expanded).1,
        (notebook.entryOfExpansion body expanded).2.flagged form) := by
  rcases expanded with error | expansion
  · rfl
  · rw [entryOfExpansion, entryOfExpansion]
    by_cases hexited : expansion.exited
    · rw [if_pos hexited, if_pos hexited]
    · rw [if_neg hexited, if_neg hexited]
      dsimp only
      rw [show (notebook.flagged form).withFlags (Flags.split expansion.text).2 =
        (notebook.withFlags (Flags.split expansion.text).2).flagged form from rfl,
        entryOfText_flagged hflag hform]

/-- A line comes to the same with the flag in front. -/
theorem entry_flagged {line : String} (htrim : Text.trim line = line) (body : Option String) :
    notebook.entry (form ++ " " ++ line) body =
      ((notebook.entry line body).1, (notebook.entry line body).2.flagged form) := by
  have hsplit := Flags.split_asLine_flagged hform htrim
  rw [Text.asLine, Text.asLine] at hsplit
  rw [entry, entry, hsplit]
  generalize Flags.split (Text.trim (Text.foldNewlines line)) = read
  exact entryOfExpansion_flagged hflag hform (notebook.begin.withFlags read.2) body _

theorem perform_flagged (engine : Engine) (body : Option String) (entry : Entry) :
    (perform engine body (entry, notebook.flagged form)).2 =
        (perform engine body (entry, notebook)).2.flagged form ∧
      Action.EndsAlike (Response.Reports flag) (perform engine body (entry, notebook)).1
        (perform engine body (entry, notebook.flagged form)).1 := by
  rcases entry with error | response | ⟨text, instruction, notices⟩
  · exact ⟨rfl, .failed error⟩
  · exact ⟨rfl, .ended (.refl flag response)⟩
  · obtain ⟨hlater, hends⟩ :=
      Action.mirrors_perform hflag hform engine text body instruction notebook
    rw [perform_asks, perform_asks]
    exact ⟨hlater, hends.map fun _ _ h => h.after (.refl flag notices)⟩

/-- A run goes the same way with the flag in front of the line. -/
theorem run_flagged (engine : Engine) {line : String} (htrim : Text.trim line = line)
    (body : Option String) :
    (notebook.run engine (form ++ " " ++ line) body).2 =
        (notebook.run engine line body).2.flagged form ∧
      Action.EndsAlike (Response.Reports flag) (notebook.run engine line body).1
        (notebook.run engine (form ++ " " ++ line) body).1 := by
  rw [run_eq_perform, run_eq_perform, entry_flagged hflag hform notebook htrim]
  rcases notebook.entry line (givenBody body) with ⟨entry, later⟩
  exact perform_flagged hflag hform later engine (givenBody body) entry

end Reporting

/-- What a run has reported.  If it has failed, that is nothing but the error. -/
def reported : Except Error Response → List Notice
  | .ok response => response.notices
  | .error _ => []

theorem map_outcome_of_endsAlike {plain flagged : Except Error Response}
    (h : Action.EndsAlike (Response.Reports flag) plain flagged) :
    flagged.map (·.outcome) = plain.map (·.outcome) := by
  cases h with
  | failed error => rfl
  | ended h => exact congrArg Except.ok h.outcome

theorem reported_of_endsAlike {plain flagged : Except Error Response}
    (h : Action.EndsAlike (Response.Reports flag) plain flagged) :
    flag.Reports (reported plain) (reported flagged) := by
  cases h with
  | failed error => exact .refl flag []
  | ended h => exact h.notices

variable (engine : Engine) (notebook : Notebook)

/-- **The reporting flags only affect what is reported.**  With `-q` or `-e` in front, in
one form or the other, a line comes to the same outcome or to the same error, and leaves
the same notebook, with all calls that have been made, but for this flag.

With `-q`, all notices are among those without it and in their order; without `-e`, all
notices are among those with it. -/
theorem run_with_reporting_flag {line : String} (htrim : Text.trim line = line)
    (body : Option String) :
    let plain := notebook.run engine line body
    let flagged (form : String) := notebook.run engine (form ++ " " ++ line) body
    (∀ form ∈ Flag.quiet.forms ++ Flag.echo.forms,
      (flagged form).2 = { plain.2 with flags := form :: plain.2.flags } ∧
        (flagged form).1.map (·.outcome) = plain.1.map (·.outcome)) ∧
      (∀ form ∈ Flag.quiet.forms, (reported (flagged form).1).Sublist (reported plain.1)) ∧
      ∀ form ∈ Flag.echo.forms, (reported plain.1).Sublist (reported (flagged form).1) := by
  intro plain flagged
  have hruns (flag : Flag) (hflag : flag.isReporting) {form : String} (hform : form ∈ flag.forms) :
      (flagged form).2 = plain.2.flagged form ∧
        Action.EndsAlike (Response.Reports flag) plain.1 (flagged form).1 :=
    run_flagged hflag hform notebook engine htrim body
  clear_value plain flagged
  refine ⟨fun form hform => ?_, fun form hform => ?_, fun form hform => ?_⟩
  · rcases List.mem_append.mp hform with hquiet | hecho
    · obtain ⟨hlater, hends⟩ := hruns .quiet rfl hquiet
      exact ⟨hlater, map_outcome_of_endsAlike hends⟩
    · obtain ⟨hlater, hends⟩ := hruns .echo rfl hecho
      exact ⟨hlater, map_outcome_of_endsAlike hends⟩
  · obtain ⟨-, hends⟩ := hruns .quiet rfl hform
    exact reported_of_endsAlike hends
  · obtain ⟨-, hends⟩ := hruns .echo rfl hform
    exact reported_of_endsAlike hends

/-- A line that changes rows is reported in three ways, and what it leaves is the same. -/
theorem run_with_reporting_flag_delete :
    Text.trim "DELETE FROM A" = "DELETE FROM A" ∧
      reported (fresh.run .willing "DELETE FROM A").1 = [.info "Command completed."] ∧
      reported (fresh.run .willing "-q DELETE FROM A").1 = [] ∧
      reported (fresh.run .willing "-echo DELETE FROM A").1 =
        [.info "DELETE FROM A", .info "Command completed."] ∧
      (fresh.run .willing "-q DELETE FROM A").2 =
        { (fresh.run .willing "DELETE FROM A").2 with flags := ["-q"] } ∧
      (fresh.run .willing "-echo DELETE FROM A").2 =
        { (fresh.run .willing "DELETE FROM A").2 with flags := ["-echo"] } := by
  have htrim : Text.trim "DELETE FROM A" = "DELETE FROM A" := by decide +kernel
  have hflags : (fresh.run .willing "DELETE FROM A").2.flags = [] := by decide +kernel
  have hruns (engine : Engine) (notebook : Notebook) (form : String)
      (hform : form ∈ Flag.quiet.forms ++ Flag.echo.forms) :
      (notebook.run engine (form ++ " " ++ "DELETE FROM A")).2 =
        { (notebook.run engine "DELETE FROM A").2 with
          flags := form :: (notebook.run engine "DELETE FROM A").2.flags } :=
    ((run_with_reporting_flag engine notebook htrim none).1 form hform).1
  have hquiet := hruns .willing fresh "-q" (by decide)
  have hecho := hruns .willing fresh "-echo" (by decide)
  rw [hflags] at hquiet hecho
  rw [show "-q" ++ " " ++ "DELETE FROM A" = "-q DELETE FROM A" by decide] at hquiet
  rw [show "-echo" ++ " " ++ "DELETE FROM A" = "-echo DELETE FROM A" by decide] at hecho
  exact ⟨htrim, by decide +kernel, by decide +kernel, by decide +kernel, hquiet, hecho⟩

end Notebook

end SqlNotebook
