/-
SqlNotebook/Proofs/Settings/Pairs.lean

The words of an `OPTION` instruction by what they are.  From the left, they are words that are
passed over and pairs of an option and a value, up to an ending: nothing, a word that stops the
reading, or an option without a value.

    please   MAXROWS 20   MAXGRID LIST   LIST   THREADS 4
    passed   pair         pair           ending

A value may be any word, also one that stops the reading elsewhere.  The settings are what the
pairs make of them, from left to right, and they are reported as changed exactly if a value has
suited its option (`applyOptions_of_reads`).  Whatever the words are, a setting that is changed
comes into range (`Ranges`); so the settings of a new notebook stay in range
(`InRange.applyOptions`).
-/
import SqlNotebook.Proofs.Settings.Options

namespace SqlNotebook.Settings

/-! ### The words -/

/-- Whether a word ends the reading of the words. -/
def Stops (word : String) : Prop :=
  word.toList.head? = some '?' ∨ Text.upperAscii word = "LIST"

instance (word : String) : Decidable (Stops word) :=
  inferInstanceAs (Decidable (_ ∨ _))

/-- A word that is passed over, or an option with its value. -/
inductive Item
  | passed (word : String)
  | pair (name value : String)

namespace Item

/-- The words that an item is made of. -/
def words : Item → List String
  | passed word => [word]
  | pair name value => [name, value]

/-- Whether the words are an item of this kind. -/
def Fits : Item → Prop
  | passed word => ¬ Stops word ∧ Key.ofOption? word = none
  | pair name _ => (Key.ofOption? name).isSome

instance : (item : Item) → Decidable item.Fits
  | passed _ => inferInstanceAs (Decidable (_ ∧ _))
  | pair .. => inferInstanceAs (Decidable (_ = true))

/-- The setting and its value. -/
def pair? : Item → Option (Key × String)
  | passed _ => none
  | pair name value => (Key.ofOption? name).map (·, value)

end Item

/-- Whether words end the reading: there are none, the first one stops it, or there is only an
option. -/
def IsEnding (words : List String) : Prop :=
  words = [] ∨ (∃ word rest, words = word :: rest ∧ Stops word) ∨
    ∃ name, words = [name] ∧ (Key.ofOption? name).isSome

/-- Words are items up to an ending. -/
structure Reads (words : List String) (items : List Item) (ending : List String) : Prop where
  words : words = items.flatMap Item.words ++ ending
  items : ∀ item ∈ items, item.Fits
  ending : IsEnding ending

/-! ### Values -/

/-- Whether a value suits a setting. -/
def Key.Accepts : Key → String → Prop
  | display, value => Text.upperAscii value = "TABLE" ∨ Text.upperAscii value = "JSON"
  | databaseUrl, _ => True
  | _, value => (Numeral.integer? value).isSome

instance : (key : Key) → (value : String) → Decidable (key.Accepts value)
  | .display, _ => inferInstanceAs (Decidable (_ ∨ _))
  | .databaseUrl, _ => inferInstanceAs (Decidable True)
  | .maxRows, _ | .maxGrid, _ | .threads, _ => inferInstanceAs (Decidable (_ = true))

/-- What pairs of a setting and a value make of the settings, from left to right; a value that
does not suit its setting changes nothing. -/
def applyPairs (settings : Settings) (pairs : List (Key × String)) : Settings :=
  pairs.foldl (fun settings pair => (settings.change pair.1 pair.2).toOption.getD settings) settings

variable {settings changed : Settings} {key : Key} {word name value : String}

theorem DisplayMode.isSome_ofName? (name : String) :
    (DisplayMode.ofName? name).isSome ↔ name = "TABLE" ∨ name = "JSON" := by
  rw [DisplayMode.ofName?.eq_def]
  split
  · simp
  · simp
  · next htable hjson => exact iff_of_false nofun (not_or.mpr ⟨htable, hjson⟩)

/-- A setting is changed exactly if the value suits it. -/
theorem isOk_change_iff (settings : Settings) (key : Key) (value : String) :
    (settings.change key value).isOk ↔ key.Accepts value := by
  cases key with
  | databaseUrl => simp [change, Except.isOk, Except.toBool, Key.Accepts]
  | display =>
    rw [Key.Accepts, ← DisplayMode.isSome_ofName?, change]
    cases DisplayMode.ofName? (Text.upperAscii value) <;> simp [Except.isOk, Except.toBool]
  | maxRows | maxGrid | threads =>
    rw [change]
    show _ ↔ (Numeral.integer? value).isSome
    cases Numeral.integer? value <;> simp [Except.isOk, Except.toBool]

/-- The name of an option does not stop the reading. -/
theorem not_stops_of_option (h : Key.ofOption? word = some key) : ¬ Stops word := by
  have hname : Text.upperAscii word ∈ ["MAXROWS", "MAXGRID", "DISPLAY", "THREADS"] := by
    rw [Key.ofOption?] at h
    split at h <;> simp_all
  rintro (hmark | hlist)
  · obtain ⟨rest, hrest⟩ := List.head?_eq_some_iff.mp hmark
    have hfirst : (Text.upperAscii word).toList.head? = some '?' := by
      rw [Text.toList_upperAscii, hrest]
      rfl
    simp only [List.mem_cons, List.not_mem_nil, or_false] at hname
    rcases hname with hname | hname | hname | hname
    all_goals
      rw [hname] at hfirst
      exact absurd hfirst (by decide)
  · rw [hlist] at hname
    exact absurd hname (by decide)

/-! ### The settings and what is reported -/

theorem exists_reads (words : List String) : ∃ items ending, Reads words items ending := by
  -- only the words matter, so the reading is followed from any report
  let r : OptionsReport := ⟨{}, [], false⟩
  fun_induction runOptions r words with
  | case1 r => exact ⟨[], [], rfl, List.forall_mem_nil _, .inl rfl⟩
  | case2 r word rest hmark =>
    exact ⟨[], _, rfl, List.forall_mem_nil _, .inr (.inl ⟨word, rest, rfl, .inl hmark⟩)⟩
  | case3 r word rest hmark hlist =>
    exact ⟨[], _, rfl, List.forall_mem_nil _, .inr (.inl ⟨word, rest, rfl, .inr hlist⟩)⟩
  | case4 r word hmark hlist rest hkey ih =>
    obtain ⟨items, ending, hwords, hitems, hending⟩ := ih
    refine ⟨.passed word :: items, ending, ?_, ?_, hending⟩
    · rw [hwords]
      rfl
    · exact List.forall_mem_cons.mpr ⟨⟨not_or.mpr ⟨hmark, hlist⟩, hkey⟩, hitems⟩
  | case5 r word hmark hlist key hkey =>
    exact ⟨[], _, rfl, List.forall_mem_nil _,
      .inr (.inr ⟨word, rfl, Option.isSome_iff_exists.mpr ⟨key, hkey⟩⟩)⟩
  | case6 r word hmark hlist key value rest hkey ih =>
    obtain ⟨items, ending, hwords, hitems, hending⟩ := ih
    refine ⟨.pair word value :: items, ending, ?_, ?_, hending⟩
    · rw [hwords]
      rfl
    · exact List.forall_mem_cons.mpr ⟨Option.isSome_iff_exists.mpr ⟨key, hkey⟩, hitems⟩

variable {words ending : List String} {items : List Item} (r : OptionsReport)

theorem runOptions_of_stops {rest : List String} (h : Stops word) :
    (runOptions r (word :: rest)).settings = r.settings ∧
      (runOptions r (word :: rest)).changed = r.changed := by
  rw [runOptions.eq_def]
  dsimp only
  split
  · exact ⟨rfl, rfl⟩
  · next hmark =>
    rw [if_pos (h.resolve_left hmark)]
    exact ⟨rfl, rfl⟩

/-- An ending changes nothing. -/
theorem runOptions_of_isEnding (h : IsEnding ending) :
    (runOptions r ending).settings = r.settings ∧
      (runOptions r ending).changed = r.changed := by
  rcases h with rfl | ⟨word, rest, rfl, hstops⟩ | ⟨name, rfl, hname⟩
  · exact ⟨rfl, rfl⟩
  · exact runOptions_of_stops r hstops
  · obtain ⟨key, hkey⟩ := Option.isSome_iff_exists.mp hname
    have hstops := not_or.mp (not_stops_of_option hkey)
    rw [runOptions.eq_def]
    dsimp only
    rw [if_neg hstops.1, if_neg hstops.2, hkey]
    exact ⟨rfl, rfl⟩

theorem runOptions_passed (h : (Item.passed word).Fits) (rest : List String) :
    runOptions r (word :: rest) = runOptions r rest := by
  have hstops := not_or.mp h.1
  rw [runOptions.eq_def]
  dsimp only
  rw [if_neg hstops.1, if_neg hstops.2, h.2]

theorem runOptions_pair (h : Key.ofOption? name = some key) (value : String)
    (rest : List String) :
    runOptions r (name :: value :: rest) = runOptions (r.change key value) rest := by
  have hstops := not_or.mp (not_stops_of_option h)
  rw [runOptions.eq_def]
  dsimp only
  rw [if_neg hstops.1, if_neg hstops.2, h]

/-- A pair changes the setting if its value suits it, and this is reported. -/
theorem change_pair (key : Key) (value : String) :
    (r.change key value).settings = applyPairs r.settings [(key, value)] ∧
      ((r.change key value).changed ↔ r.changed ∨ key.Accepts value) := by
  rw [OptionsReport.change, ← isOk_change_iff r.settings, applyPairs, List.foldl_cons,
    List.foldl_nil]
  cases r.settings.change key value with
  | ok changed => exact ⟨rfl, iff_of_true rfl (.inr rfl)⟩
  | error fault => exact ⟨rfl, ⟨.inl, fun h => h.resolve_right Bool.false_ne_true⟩⟩

theorem runOptions_of_reads (h : Reads words items ending) :
    (runOptions r words).settings = applyPairs r.settings (items.filterMap Item.pair?) ∧
      ((runOptions r words).changed ↔
        r.changed ∨ ∃ pair ∈ items.filterMap Item.pair?, pair.1.Accepts pair.2) := by
  obtain ⟨rfl, hitems, hending⟩ := h
  -- one item is one call of the reader; the report that it leaves is where the next one starts
  induction items generalizing r with
  | nil =>
    obtain ⟨hsettings, hchanged⟩ := runOptions_of_isEnding r hending
    rw [List.flatMap_nil, List.nil_append, hsettings, hchanged]
    exact ⟨rfl, by simp⟩
  | cons item items ih =>
    rw [List.forall_mem_cons] at hitems
    cases item with
    | passed word =>
      have hwords : (Item.passed word :: items).flatMap Item.words ++ ending =
          word :: (items.flatMap Item.words ++ ending) := rfl
      rw [hwords, runOptions_passed r hitems.1]
      exact ih r hitems.2
    | pair name value =>
      obtain ⟨key, hkey⟩ := Option.isSome_iff_exists.mp hitems.1
      have hwords : (Item.pair name value :: items).flatMap Item.words ++ ending =
          name :: value :: (items.flatMap Item.words ++ ending) := rfl
      have hpairs : (Item.pair name value :: items).filterMap Item.pair? =
          (key, value) :: items.filterMap Item.pair? := by
        rw [List.filterMap_cons, Item.pair?, hkey, Option.map_some]
      obtain ⟨hsettings, hchanged⟩ := change_pair r key value
      obtain ⟨hall, hany⟩ := ih (r.change key value) hitems.2
      rw [hwords, runOptions_pair r hkey, hall, hany, hsettings, hchanged, hpairs,
        List.exists_mem_cons_iff, or_assoc]
      exact ⟨rfl, Iff.rfl⟩

/-! ### Ranges -/

/-- What is changed comes into range, and where to connect to is not changed at all. -/
structure Ranges (settings changed : Settings) : Prop where
  databaseUrl : changed.databaseUrl = settings.databaseUrl
  maxRows : changed.maxRows = settings.maxRows ∨ 1 ≤ changed.maxRows ∧ changed.maxRows ≤ 100
  maxGrid : changed.maxGrid = settings.maxGrid ∨ 5 ≤ changed.maxGrid
  threads : changed.threads = settings.threads ∨ changed.threads ≤ 12

/-- Whether all settings are in range. -/
structure InRange (settings : Settings) : Prop where
  maxRows : 1 ≤ settings.maxRows ∧ settings.maxRows ≤ 100
  maxGrid : 5 ≤ settings.maxGrid
  threads : settings.threads ≤ 12

theorem inRange_default : InRange {} :=
  ⟨by decide, by decide, by decide⟩

theorem Ranges.refl (settings : Settings) : Ranges settings settings :=
  ⟨rfl, .inl rfl, .inl rfl, .inl rfl⟩

theorem Ranges.trans {first second third : Settings} (h : Ranges first second)
    (hnext : Ranges second third) : Ranges first third where
  databaseUrl := hnext.databaseUrl.trans h.databaseUrl
  maxRows := hnext.maxRows.elim (fun hsame => hsame ▸ h.maxRows) .inr
  maxGrid := hnext.maxGrid.elim (fun hsame => hsame ▸ h.maxGrid) .inr
  threads := hnext.threads.elim (fun hsame => hsame ▸ h.threads) .inr

theorem InRange.of_ranges (h : InRange settings) (hranges : Ranges settings changed) :
    InRange changed where
  maxRows := hranges.maxRows.elim (fun hsame => hsame ▸ h.maxRows) id
  maxGrid := hranges.maxGrid.elim (fun hsame => hsame ▸ h.maxGrid) id
  threads := hranges.threads.elim (fun hsame => hsame ▸ h.threads) id

theorem clampRows_bounds (n : Int) : 1 ≤ clampRows n ∧ clampRows n ≤ 100 := by
  rw [clampRows, maxRowsLimit]
  split
  · decide
  · next h =>
    simp only [Bool.or_eq_true, decide_eq_true_eq] at h
    omega

/-- A change of an option brings it into range. -/
theorem ranges_change (hkey : Key.ofOption? name = some key)
    (hchange : settings.change key value = .ok changed) : Ranges settings changed := by
  have hurl := databaseUrl_change_of_option hkey hchange
  cases key with
  | databaseUrl =>
    rw [Key.ofOption?] at hkey
    split at hkey <;> cases hkey
  | maxRows =>
    simp only [change] at hchange
    split at hchange <;> cases hchange
    exact ⟨hurl, .inr (clampRows_bounds _), .inl rfl, .inl rfl⟩
  | maxGrid =>
    simp only [change] at hchange
    split at hchange <;> cases hchange
    exact ⟨hurl, .inl rfl, .inr (Int.le_max_right _ _), .inl rfl⟩
  | display =>
    simp only [change] at hchange
    split at hchange <;> cases hchange
    exact ⟨hurl, .inl rfl, .inl rfl, .inl rfl⟩
  | threads =>
    simp only [change] at hchange
    split at hchange <;> cases hchange
    refine ⟨hurl, .inl rfl, .inl rfl, .inr ?_⟩
    exact Int.toNat_le.mpr (Int.min_le_right _ _)

theorem ranges_applyOptions (settings : Settings) (words : List String) :
    Ranges settings (settings.applyOptions words).settings :=
  runOptions_keeps (P := fun other _ => Ranges settings other)
    (fun hkey hother hchange => hother.trans (ranges_change hkey hchange)) _ words (.refl settings)

/-- Whatever instructions there are, settings in range stay so. -/
theorem InRange.applyOptions (h : InRange settings) (instructions : List (List String)) :
    InRange (instructions.foldl (fun settings words => (settings.applyOptions words).settings)
      settings) := by
  induction instructions generalizing settings with
  | nil => exact h
  | cons words instructions ih => exact ih (h.of_ranges (ranges_applyOptions settings words))

/-- Of the rows of a table some are shown, and no others than there are. -/
theorem InRange.visibleRows (h : InRange settings) (size : Nat) (all : Bool) :
    settings.visibleRows size all ≤ size ∧ (0 < size → 1 ≤ settings.visibleRows size all) := by
  have hrows := h.maxRows.1
  rw [Settings.visibleRows]
  split
  · exact ⟨Nat.le_refl size, id⟩
  · omega

/-- **The options are what their words say.**  Words can be read as items up to an ending, and
however they are read, the settings are what the pairs of an option and a value make of them, from
left to right, where a value that does not suit its option is passed over; they are reported as
changed exactly if some value suits its option.  Where to connect to is not touched, and every
other setting is what it was or in range.  So the settings of a new notebook are in range behind
any number of instructions, and of a table that has rows at least one is shown. -/
theorem applyOptions_of_reads (settings : Settings) (words : List String) :
    (∃ items ending, Reads words items ending) ∧
      (∀ items ending, Reads words items ending →
        (settings.applyOptions words).settings =
            applyPairs settings (items.filterMap Item.pair?) ∧
          ((settings.applyOptions words).changed ↔
            ∃ pair ∈ items.filterMap Item.pair?, pair.1.Accepts pair.2)) ∧
      Ranges settings (settings.applyOptions words).settings ∧
      ∀ instructions : List (List String),
        let reached := instructions.foldl
          (fun settings words => (settings.applyOptions words).settings) ({} : Settings)
        InRange reached ∧ ∀ size all, reached.visibleRows size all ≤ size ∧
          (0 < size → 1 ≤ reached.visibleRows size all) := by
  refine ⟨exists_reads words, fun items ending hreads => ?_, ranges_applyOptions settings words,
    fun instructions => ?_⟩
  · obtain ⟨hsettings, hchanged⟩ := runOptions_of_reads ⟨settings, [], false⟩ hreads
    exact ⟨hsettings, hchanged.trans (or_iff_right nofun)⟩
  · have hrange := inRange_default.applyOptions instructions
    exact ⟨hrange, hrange.visibleRows⟩

/-- Words with a value that stops the reading elsewhere, and options behind the word that does. -/
def mixedWords : List String :=
  ["please", "MaxRows", "20", "maxrows", "LIST", "maxgrid", "2", "DISPLAY", "Json",
    "Threads", "99", "list", "MAXGRID", "9"]

/-- All four options are set, one of them in spite of a second value that does not suit it,
and two of them to the nearest value in range. -/
theorem applyOptions_of_reads_mixedWords :
    Reads mixedWords
        [.passed "please", .pair "MaxRows" "20", .pair "maxrows" "LIST", .pair "maxgrid" "2",
          .pair "DISPLAY" "Json", .pair "Threads" "99"]
        ["list", "MAXGRID", "9"] ∧
      (applyOptions { maxRows := -1, databaseUrl := some "a" } mixedWords).settings =
        { maxRows := 20, maxGrid := 5, display := .json, threads := 12,
          databaseUrl := some "a" } ∧
      (applyOptions { maxRows := -1, databaseUrl := some "a" } mixedWords).changed := by
  have hreads : Reads mixedWords
      [.passed "please", .pair "MaxRows" "20", .pair "maxrows" "LIST", .pair "maxgrid" "2",
        .pair "DISPLAY" "Json", .pair "Threads" "99"]
      ["list", "MAXGRID", "9"] := by
    exact ⟨rfl, by decide, .inr (.inl ⟨"list", ["MAXGRID", "9"], rfl, by decide⟩)⟩
  obtain ⟨hsettings, hchanged⟩ := (applyOptions_of_reads
    { maxRows := -1, databaseUrl := some "a" } mixedWords).2.1 _ _ hreads
  refine ⟨hreads, hsettings.trans (by decide), hchanged.mpr ⟨(.threads, "99"), by decide, by decide⟩⟩

end SqlNotebook.Settings
