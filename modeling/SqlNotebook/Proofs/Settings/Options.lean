/-
SqlNotebook/Proofs/Settings/Options.lean

What the words of an `OPTION` instruction make of the settings.  Whatever words there
are, the settings only ever go from one step of `OptionsReport.change` to the next, so
what one such step keeps is kept by all of them (`runOptions_keeps`).
-/
import SqlNotebook.Proofs.Settings.File
import SqlNotebook.Settings.Options

namespace SqlNotebook

theorem Numeral.fitsInt64_of_integer? {s : String} {n : Int} (h : integer? s = some n) :
    fitsInt64 n :=
  (Option.filter_eq_some_iff.mp h).2

namespace Settings

/-! ### One change -/

/-- A change leaves settings that can be written. -/
theorem IsStorable.change {settings changed : Settings} (h : settings.IsStorable) {key : Key}
    {value : String} (hchange : settings.change key value = .ok changed) : changed.IsStorable := by
  cases key with
  | maxRows =>
    simp only [Settings.change] at hchange
    split at hchange
    · next n hn =>
      cases hchange
      refine ⟨?_, h.maxGrid, h.threads⟩
      show Numeral.fitsInt64 (clampRows n)
      rw [clampRows]
      split
      · rfl
      · exact Numeral.fitsInt64_of_integer? hn
    · cases hchange
  | maxGrid =>
    simp only [Settings.change] at hchange
    split at hchange
    · next n hn =>
      cases hchange
      refine ⟨h.maxRows, ?_, h.threads⟩
      show Numeral.fitsInt64 (max n minGrid)
      rw [Int.max_def]
      split
      · rfl
      · exact Numeral.fitsInt64_of_integer? hn
    · cases hchange
  | display =>
    simp only [Settings.change] at hchange
    split at hchange
    · cases hchange
      exact ⟨h.maxRows, h.maxGrid, h.threads⟩
    · cases hchange
  | threads =>
    simp only [Settings.change] at hchange
    split at hchange
    · next n hn =>
      cases hchange
      refine ⟨h.maxRows, h.maxGrid, ?_⟩
      show Numeral.fitsInt64 ((min n maxThreads).toNat : Int)
      have hthreads : (min n maxThreads).toNat ≤ 12 := by
        rw [maxThreads]
        omega
      rw [Numeral.fitsInt64_iff, Numeral.int64Bound]
      omega
    · cases hchange
  | databaseUrl =>
    cases hchange
    exact ⟨h.maxRows, h.maxGrid, h.threads⟩

/-! ### All words -/

/-- What is true of the settings and of whether they have been changed, and is kept by a
change of an option, is true behind all words. -/
theorem runOptions_keeps {P : Settings → Bool → Prop}
    (hchange : ∀ {settings changed : Settings} {before : Bool} {name : String} {key : Key}
      {value : String}, Key.ofOption? name = some key → P settings before →
        settings.change key value = .ok changed → P changed true)
    (r : OptionsReport) (words : List String) (h : P r.settings r.changed) :
    P (runOptions r words).settings (runOptions r words).changed := by
  fun_induction runOptions r words with
  | case1 r => exact h
  | case2 r word rest hhelp => exact h
  | case3 r word rest hhelp hlist => exact h
  | case4 r word rest hhelp hlist hkey ih => exact ih h
  | case5 r word hhelp hlist key hkey => exact h
  | case6 r word hhelp hlist key value rest hkey ih =>
    refine ih ?_
    rw [OptionsReport.change]
    split
    · next settings hsettings => exact hchange hkey h hsettings
    · exact h

variable (settings : Settings) (words : List String)

/-- Settings that are not reported as changed are what they were. -/
theorem applyOptions_of_unchanged (h : ¬ (settings.applyOptions words).changed) :
    (settings.applyOptions words).settings = settings :=
  runOptions_keeps (P := fun other changed => ¬ changed → other = settings)
    (fun _ _ _ hchanged => absurd rfl hchanged) _ words (fun _ => rfl) h

theorem IsStorable.applyOptions {settings : Settings} (h : settings.IsStorable) :
    (settings.applyOptions words).settings.IsStorable :=
  runOptions_keeps (P := fun other _ => other.IsStorable)
    (fun _ hother hchange => hother.change hchange) _ words h

/-- No option is the URL of the database. -/
theorem databaseUrl_change_of_option {settings changed : Settings} {name value : String} {key : Key}
    (hkey : Key.ofOption? name = some key) (hchange : settings.change key value = .ok changed) :
    changed.databaseUrl = settings.databaseUrl := by
  cases key with
  | databaseUrl =>
    rw [Key.ofOption?] at hkey
    split at hkey <;> cases hkey
  | _ =>
    simp only [Settings.change] at hchange
    split at hchange <;> cases hchange
    rfl

theorem databaseUrl_applyOptions :
    (settings.applyOptions words).settings.databaseUrl = settings.databaseUrl :=
  runOptions_keeps (P := fun other _ => other.databaseUrl = settings.databaseUrl)
    (fun hkey hother hchange => (databaseUrl_change_of_option hkey hchange).trans hother) _ words rfl

end Settings

end SqlNotebook
