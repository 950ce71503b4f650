/-
SqlNotebook/Proofs/Settings/File.lean

The settings file keeps the settings:

    ofFile (some settings.toText)  =  settings    (`ofFile_toText`)

for all settings whose numbers fit into 64 bits with a sign, whatever characters the URL
is made of.  The file is a document of lines, each of which is read by itself; what there
is to know about a line is how its value is written.
-/
import SqlNotebook.Proofs.Toml.Integers
import SqlNotebook.Proofs.Toml.Lines
import SqlNotebook.Settings.File

namespace SqlNotebook

theorem DisplayMode.ofName?_name (mode : DisplayMode) : ofName? mode.name = some mode := by
  cases mode
  all_goals rfl

namespace Settings

/-- Whether the numbers fit into 64 bits with a sign, as those in a file do. -/
structure IsStorable (settings : Settings) : Prop where
  maxRows : Numeral.fitsInt64 settings.maxRows
  maxGrid : Numeral.fitsInt64 settings.maxGrid
  threads : Numeral.fitsInt64 settings.threads

/-! ### The lines of the file -/

/-- The line for an integer. -/
def integerLine (key : Key) (n : Int) : Toml.Line :=
  ⟨key.name, (toString n).toList, .integer n⟩

/-- The line for a text. -/
def textLine (key : Key) (text : String) : Toml.Line :=
  ⟨key.name, (Toml.quote text).toList, .text text⟩

/-- The lines of the file. -/
def lines (settings : Settings) : List Toml.Line :=
  [integerLine .maxRows settings.maxRows,
    integerLine .maxGrid settings.maxGrid,
    textLine .display settings.display.name,
    integerLine .threads settings.threads] ++
    (settings.databaseUrl.map (textLine .databaseUrl)).toList

theorem Key.bare_name (key : Key) :
    key.name.toList ≠ [] ∧ ∀ c ∈ key.name.toList, Toml.isBareChar c := by
  rw [← List.all_eq_true]
  cases key
  all_goals decide

theorem isReadable_integerLine (key : Key) {n : Int} (h : Numeral.fitsInt64 n) :
    (integerLine key n).IsReadable where
  nonempty := key.bare_name.1
  bare := key.bare_name.2
  unspaced := by
    obtain ⟨c, rest, hcons, hc, -⟩ := toList_toString_eq_cons n
    rintro d hd hspace
    rw [integerLine, hcons] at hd
    obtain rfl := Option.some.inj hd
    rw [Toml.isSpace, Bool.or_eq_true, decide_eq_true_eq, decide_eq_true_eq] at hspace
    rcases hspace with rfl | rfl
    · exact absurd hc (by decide)
    · exact absurd hc (by decide)
  value := Toml.readValue_toString h Toml.maxDepth

theorem isReadable_textLine (key : Key) (text : String) : (textLine key text).IsReadable where
  nonempty := key.bare_name.1
  bare := key.bare_name.2
  unspaced := by
    obtain ⟨c, rest, hcons, hc⟩ := Toml.quoteChars_eq_cons text.toList
    intro d hd
    rw [textLine, Toml.quote, String.toList_ofList, hcons] at hd
    obtain rfl := Option.some.inj hd
    rcases hc with rfl | rfl
    · decide
    · decide
  value := Toml.readValue_quote text Toml.maxDepth

variable {settings : Settings}

theorem isReadable_of_mem_lines (h : settings.IsStorable) :
    ∀ line ∈ settings.lines, line.IsReadable := by
  intro line hline
  rw [lines, List.mem_append] at hline
  rcases hline with hline | hline
  · simp only [List.mem_cons, List.not_mem_nil, or_false] at hline
    rcases hline with rfl | rfl | rfl | rfl
    · exact isReadable_integerLine _ h.maxRows
    · exact isReadable_integerLine _ h.maxGrid
    · exact isReadable_textLine _ _
    · exact isReadable_integerLine _ h.threads
  · rw [Option.mem_toList, Option.map_eq_some_iff] at hline
    obtain ⟨url, -, rfl⟩ := hline
    exact isReadable_textLine _ _

theorem distinct_lines (settings : Settings) : (settings.lines.map Toml.Line.name).Nodup := by
  rw [lines]
  rcases settings.databaseUrl with - | url
  · show ["maxrows", "maxgrid", "display", "threads"].Nodup
    decide
  · show ["maxrows", "maxgrid", "display", "threads", "database_url"].Nodup
    decide

theorem toList_line (key : Key) (value : String) :
    (line key value).toList = key.name.toList ++ ' ' :: '=' :: ' ' :: (value.toList ++ ['\n']) := by
  rw [line]
  simp only [String.toList_append, List.append_assoc]
  rfl

theorem toList_integerLine (key : Key) (n : Int) :
    (line key (toString n)).toList = (integerLine key n).chars :=
  toList_line key (toString n)

theorem toList_textLine (key : Key) (text : String) :
    (line key (Toml.quote text)).toList = (textLine key text).chars :=
  toList_line key (Toml.quote text)

theorem toList_toText (settings : Settings) :
    settings.toText.toList = settings.lines.flatMap Toml.Line.chars := by
  have hthreads : toString settings.threads = toString (settings.threads : Int) := rfl
  rw [toText, lines, hthreads]
  rcases settings.databaseUrl with - | url
  · simp only [String.toList_append, toList_integerLine, toList_textLine, List.append_assoc,
      List.flatMap_append, List.flatMap_cons, List.flatMap_nil, List.append_nil]
    rfl
  · simp only [String.toList_append, toList_integerLine, toList_textLine, List.append_assoc,
      List.flatMap_append, List.flatMap_cons, List.flatMap_nil, List.append_nil, Option.map_some,
      Option.getD_some, Option.toList_some]

/-- The entries of the lines give the settings back. -/
theorem ofEntries?_lines (settings : Settings) :
    ofEntries? (settings.lines.map Toml.Line.entry) = some settings := by
  have hdisplay := settings.display.ofName?_name
  rcases settings with ⟨maxRows, maxGrid, display, threads, - | url⟩
  · simp [ofEntries?, lines, integerLine, textLine, Toml.Line.entry, Key.name, List.lookup_cons,
      readInteger, readDisplay, readThreads, readUrl, hdisplay]
  · simp [ofEntries?, lines, integerLine, textLine, Toml.Line.entry, Key.name, List.lookup_cons,
      readInteger, readDisplay, readThreads, readUrl, hdisplay]

/-- **A settings file gives back the settings that were written to it.** -/
theorem ofFile_toText (settings : Settings) (h : settings.IsStorable) :
    ofFile (some settings.toText) = .ok settings := by
  have hentries := Toml.ofText?_lines (isReadable_of_mem_lines h) (distinct_lines settings)
    (toList_toText settings)
  rw [ofFile, ofText, hentries, Option.bind_eq_bind, Option.bind_some, ofEntries?_lines]

/-! ### What a file can hold -/

theorem fitsInt64_of_readInteger {entries : Toml.Entries} (hentries : entries.Fit) {name : String}
    {fallback n : Int} (hfallback : Numeral.fitsInt64 fallback)
    (h : readInteger fallback (entries.lookup name) = some n) : Numeral.fitsInt64 n := by
  rcases hlookup : entries.lookup name with - | value
  · rw [hlookup] at h
    cases h
    exact hfallback
  · rw [hlookup] at h
    cases value with
    | integer m =>
      cases h
      exact hentries.lookup hlookup
    | text | boolean | float | moment | array | table | tables => cases h

theorem isStorable_of_ofEntries? {entries : Toml.Entries} (hentries : entries.Fit)
    {settings : Settings} (h : ofEntries? entries = some settings) : settings.IsStorable := by
  obtain ⟨maxRows, hrows, h⟩ := Option.bind_eq_some_iff.mp h
  obtain ⟨maxGrid, hgrid, h⟩ := Option.bind_eq_some_iff.mp h
  obtain ⟨display, -, h⟩ := Option.bind_eq_some_iff.mp h
  obtain ⟨threads, hthreads, h⟩ := Option.bind_eq_some_iff.mp h
  obtain ⟨databaseUrl, -, heq⟩ := Option.bind_eq_some_iff.mp h
  cases heq
  -- the number of connections is read as an integer that is not negative
  refine ⟨fitsInt64_of_readInteger hentries rfl hrows,
    fitsInt64_of_readInteger hentries rfl hgrid, ?_⟩
  rw [readThreads] at hthreads
  split at hthreads
  · next n hn =>
    have hfits := fitsInt64_of_readInteger hentries rfl hn
    split at hthreads
    · next hpos =>
      cases hthreads
      rwa [Int.toNat_of_nonneg hpos]
    · cases hthreads
  · cases hthreads

/-- **Only settings that can be written come out of a file.** -/
theorem isStorable_of_ofFile {text : Option String} {settings : Settings}
    (h : ofFile text = .ok settings) : settings.IsStorable := by
  rcases text with - | text
  · cases h
    exact ⟨rfl, rfl, rfl⟩
  · rw [ofFile, ofText] at h
    split at h
    · next found hfound =>
      cases h
      obtain ⟨entries, hentries, hfound⟩ := Option.bind_eq_some_iff.mp hfound
      exact isStorable_of_ofEntries? (Toml.fit_of_ofText? hentries) hfound
    · cases h

end Settings

end SqlNotebook
