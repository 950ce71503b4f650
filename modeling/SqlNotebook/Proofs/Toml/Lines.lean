/-
SqlNotebook/Proofs/Toml/Lines.lean

Documents that consist of lines of the form

    name = value

with different bare names and values that are read from their texts.  Such a document has
exactly the entries of its lines, in order (`ofText?_lines`).  The values that are needed
here are integers that fit into 64 bits, and texts in quotes.
-/
import Mathlib.Algebra.BigOperators.Group.List.Basic
import SqlNotebook.Proofs.Text.Numerals
import SqlNotebook.Proofs.Toml.Quoted
import SqlNotebook.Toml.Reader

namespace SqlNotebook.Toml

/-! ### Integers -/

theorem digits?_of_all {s : List Char} (hne : s ≠ []) (hall : ∀ c ∈ s, c.isDigit) :
    digits? Char.isDigit s = some s := by
  induction s with
  | nil => exact absurd rfl hne
  | cons c s ih =>
    rw [List.forall_mem_cons] at hall
    rcases s with - | ⟨d, s⟩
    · rw [digits?, if_pos hall.1]
    · have hd : d ≠ '_' := by
        rintro rfl
        exact absurd (hall.2 '_' List.mem_cons_self) (by decide)
      rw [digits?, if_pos hall.1, ih nofun hall.2]
      · rfl
      · exact nofun
      · rintro _ h
        exact hd (List.cons.inj h).1

theorem wholeDigits?_toDigits (n : Nat) :
    wholeDigits? (Nat.toDigits 10 n) = some (Nat.toDigits 10 n) := by
  rcases Nat.eq_zero_or_pos n with rfl | hn
  · rfl
  · have hhead := head?_toDigits_ne_zero hn
    rw [wholeDigits?]
    · exact digits?_of_all Nat.toDigits_ne_nil fun c hc =>
        Nat.isDigit_of_mem_toDigits (by decide) (by decide) hc
    · intro h
      exact hhead (h ▸ rfl)
    · intro rest h
      exact hhead (h ▸ rfl)

theorem decimalInteger?_toString {n : Int} (h : Numeral.fitsInt64 n) :
    decimalInteger? (toString n).toList = some n := by
  obtain ⟨c, rest, hcons⟩ :=
    List.exists_cons_of_ne_nil (Nat.toDigits_ne_nil (n := n.natAbs) (b := 10))
  have hdigit := isDigit_of_toDigits_eq_cons hcons
  have hsign : splitSign (toString n).toList = (decide (n < 0), Nat.toDigits 10 n.natAbs) := by
    rw [toList_toString]
    by_cases hneg : n < 0
    · rw [if_pos hneg, decide_eq_true hneg]
      rfl
    · rw [if_neg hneg, decide_eq_false hneg, List.nil_append, hcons, splitSign]
      · rintro _ h
        exact absurd ((List.cons.inj h).1 ▸ hdigit) (by decide)
      · rintro _ h
        exact absurd ((List.cons.inj h).1 ▸ hdigit) (by decide)
  have hvalue : (if n < 0 then -(n.natAbs : Int) else n.natAbs) = n := by
    split
    · omega
    · omega
  rw [decimalInteger?, hsign]
  simp only [wholeDigits?_toDigits, Chars.natural?_toDigits, Option.bind_eq_bind,
    Option.bind_some, decide_eq_true_eq, hvalue, h, if_true]

theorem word?_toString {n : Int} (h : Numeral.fitsInt64 n) :
    word? (toString n).toList = some (.integer n) := by
  obtain ⟨c, rest, hcons, hc, hrest⟩ := toList_toString_eq_cons n
  have hinteger : integer? (toString n).toList = some n := by
    have hmarked {x : Char} (hx : ¬ x.isDigit) (tail : List Char) :
        (toString n).toList ≠ '0' :: x :: tail := by
      intro hzero
      rw [hcons] at hzero
      exact hx (hrest x ((List.cons.inj hzero).2 ▸ List.mem_cons_self))
    rw [integer?]
    · exact decimalInteger?_toString h
    · exact hmarked (by decide)
    · exact hmarked (by decide)
    · exact hmarked (by decide)
  have hword {name : List Char} {x : Char} (hname : name.head? = some x)
      (hx : ¬ (x = '-' ∨ x.isDigit)) : (toString n).toList ≠ name := by
    rintro rfl
    rw [hcons] at hname
    exact hx (Option.some.inj hname ▸ hc)
  rw [word?, if_neg (hword (x := 't') rfl (by decide)), if_neg (hword (x := 'f') rfl (by decide)),
    hinteger]

theorem isWordChar_of_isDigit {c : Char} (h : c.isDigit) : isWordChar c := by
  simp [isWordChar, Char.isAlphanum, h]

/-! ### Values -/

/-- An integer at the end of a line. -/
theorem readValue_toString {n : Int} (h : Numeral.fitsInt64 n) (depth : Nat) (rest : List Char) :
    readValue depth ((toString n).toList ++ '\n' :: rest) = some (.integer n, '\n' :: rest) := by
  obtain ⟨c, tail, hcons, hc, htail⟩ := toList_toString_eq_cons n
  have hword : ∀ d ∈ (toString n).toList, isWordChar d := by
    rw [hcons, List.forall_mem_cons]
    refine ⟨?_, fun d hd => isWordChar_of_isDigit (htail d hd)⟩
    rcases hc with rfl | hc
    · rfl
    · exact isWordChar_of_isDigit hc
  have hopen {x : Char} (hx : ¬ (x = '-' ∨ x.isDigit)) (s : List Char) :
      (toString n).toList ++ '\n' :: rest ≠ x :: s := by
    rw [hcons, List.cons_append]
    intro hs
    exact hx ((List.cons.inj hs).1 ▸ hc)
  have hread : readWord ((toString n).toList ++ '\n' :: rest) =
      some (.integer n, '\n' :: rest) := by
    have htake : ('\n' :: rest).takeWhile isWordChar = [] := rfl
    have hdrop : ('\n' :: rest).dropWhile isWordChar = '\n' :: rest := rfl
    rw [readWord, List.takeWhile_append_of_pos hword, List.dropWhile_append_of_pos hword, htake,
      hdrop, List.append_nil, word?_toString h]
    simp
  rw [readValue]
  · exact hread
  · exact fun s => hopen (by decide) s
  · exact fun s => hopen (by decide) s
  · exact fun s _ => hopen (by decide) s
  · exact fun _ s _ => hopen (by decide) s
  · exact fun s _ => hopen (by decide) s
  · exact fun _ s _ => hopen (by decide) s

/-- A text in quotes at the end of a line. -/
theorem readValue_quote (s : String) (depth : Nat) (rest : List Char) :
    readValue depth ((quote s).toList ++ '\n' :: rest) = some (.text s, '\n' :: rest) := by
  have hread : readQuoted (quoteChars s.toList ++ '\n' :: rest) = some (s.toList, '\n' :: rest) :=
    readQuoted_quoteChars s.toList fun c hc => by
      obtain rfl := Option.some.inj hc
      decide
  obtain ⟨c, tail, hcons, hc⟩ := quoteChars_eq_cons s.toList
  rw [quote, String.toList_ofList, hcons, List.cons_append]
  rw [hcons, List.cons_append] at hread
  rcases hc with rfl | rfl
  · rw [readValue, hread, Option.map_some]
    dsimp only
    rw [String.ofList_toList]
  · rw [readValue, hread, Option.map_some]
    dsimp only
    rw [String.ofList_toList]

/-! ### Lines -/

/-- A line that gives a name a value. -/
structure Line where
  name : String
  /-- How the value is written. -/
  text : List Char
  value : Toml

namespace Line

/-- The characters of a line, with its end. -/
def chars (line : Line) : List Char :=
  line.name.toList ++ ' ' :: '=' :: ' ' :: (line.text ++ ['\n'])

/-- The entry that a line makes. -/
def entry (line : Line) : String × Toml :=
  (line.name, line.value)

/-- Whether a line can be read: its name is bare, and the value is read from its text. -/
structure IsReadable (line : Line) : Prop where
  nonempty : line.name.toList ≠ []
  bare : ∀ c ∈ line.name.toList, isBareChar c
  unspaced : ∀ c ∈ line.text.head?, ¬ isSpace c
  value : ∀ rest, readValue maxDepth (line.text ++ '\n' :: rest) = some (line.value, '\n' :: rest)

end Line

theorem skipSpace_of_head? {s : List Char} (h : ∀ c ∈ s.head?, ¬ isSpace c) : skipSpace s = s := by
  rcases s with - | ⟨c, s⟩
  · rfl
  · rw [skipSpace, List.dropWhile_cons_of_neg (h c rfl)]

theorem not_isSpace_of_isBareChar {c : Char} (h : isBareChar c) : ¬ isSpace c := by
  intro hspace
  rw [isSpace, Bool.or_eq_true, decide_eq_true_eq, decide_eq_true_eq] at hspace
  rcases hspace with rfl | rfl
  · exact absurd h (by decide)
  · exact absurd h (by decide)

namespace Line.IsReadable

variable {line : Line}

/-- A line starts with the first character of its name. -/
theorem head?_append (h : line.IsReadable) (rest : List Char) :
    ∃ c, (line.name.toList ++ rest).head? = some c ∧ isBareChar c := by
  obtain ⟨c, name, hname⟩ := List.exists_cons_of_ne_nil h.nonempty
  exact ⟨c, by rw [hname]; rfl, h.bare c (hname ▸ List.mem_cons_self)⟩

theorem ne_cons (h : line.IsReadable) {c : Char} (hc : ¬ isBareChar c) (rest s : List Char) :
    line.name.toList ++ rest ≠ c :: s := by
  intro hs
  obtain ⟨first, hhead, hfirst⟩ := h.head?_append rest
  rw [hs] at hhead
  exact hc (Option.some.inj hhead ▸ hfirst)

theorem skipSpace_append (h : line.IsReadable) (rest : List Char) :
    skipSpace (line.name.toList ++ rest) = line.name.toList ++ rest := by
  refine skipSpace_of_head? fun c hc => ?_
  obtain ⟨first, hhead, hfirst⟩ := h.head?_append rest
  rw [hhead] at hc
  exact Option.some.inj hc ▸ not_isSpace_of_isBareChar hfirst

/-- The name of a line is read as a key. -/
theorem readKey_append (h : line.IsReadable) (rest : List Char) :
    readKey (line.name.toList ++ ' ' :: '=' :: rest) = some ([line.name], '=' :: rest) := by
  have htake : (' ' :: '=' :: rest).takeWhile isBareChar = [] := rfl
  have hdrop : (' ' :: '=' :: rest).dropWhile isBareChar = ' ' :: '=' :: rest := rfl
  have hname : readName (line.name.toList ++ ' ' :: '=' :: rest) =
      some (line.name, ' ' :: '=' :: rest) := by
    rw [readName]
    · rw [List.takeWhile_append_of_pos h.bare, List.dropWhile_append_of_pos h.bare, htake, hdrop,
        List.append_nil, String.ofList_toList, if_neg (by simpa using h.nonempty)]
    · exact fun s => h.ne_cons (by decide) _ s
    · exact fun s => h.ne_cons (by decide) _ s
  rw [readKey, maxDepth, readNames, h.skipSpace_append, hname]
  rfl

/-- A line is read as its name and its value. -/
theorem readPair_chars (h : line.IsReadable) (rest : List Char) :
    readPair (readValue maxDepth) (line.chars ++ rest) =
      some (([line.name], line.value), '\n' :: rest) := by
  have hspace : skipSpace (' ' :: (line.text ++ '\n' :: rest)) = line.text ++ '\n' :: rest := by
    show skipSpace (line.text ++ '\n' :: rest) = _
    refine skipSpace_of_head? fun c hc => ?_
    rcases htext : line.text with - | ⟨first, text⟩
    · rw [htext] at hc
      obtain rfl : '\n' = c := Option.some.inj hc
      decide
    · rw [htext] at hc
      exact h.unspaced c (htext ▸ hc)
  have hchars : line.chars ++ rest =
      line.name.toList ++ ' ' :: '=' :: ' ' :: (line.text ++ '\n' :: rest) := by
    simp [chars]
  rw [readPair, hchars, h.readKey_append]
  show ((readValue maxDepth (skipSpace (' ' :: (line.text ++ '\n' :: rest)))).bind _) = _
  rw [hspace, h.value]
  rfl

end Line.IsReadable

/-- A name that is new gets its value in the document itself. -/
theorem setKey?_of_lookup {draft : Draft} {name : String} (h : draft.current.lookup name = none)
    (value : Toml) :
    draft.setKey? [name] value =
      some { draft with current := draft.current ++ [(name, value)] } := by
  show ((Entries.set? draft.current .header [] name value).bind _) = _
  rw [Entries.set?, Entries.change?]
  show (((Entries.add? name value draft.current).map _).bind _).bind _ = _
  rw [Entries.add?, h]
  rfl

/-- A line adds its entry. -/
theorem readLine_chars {line : Line} (h : line.IsReadable) {draft : Draft}
    (hnew : draft.current.lookup line.name = none) (rest : List Char) :
    readLine draft (line.chars ++ rest) =
      some ({ draft with current := draft.current ++ [line.entry] }, rest) := by
  have hne {c : Char} (hc : ¬ isBareChar c) (s : List Char) : line.chars ++ rest ≠ c :: s := by
    rw [Line.chars, List.append_assoc]
    exact h.ne_cons hc _ s
  have hnewline : afterNewline? (line.chars ++ rest) = none := by
    apply afterNewline?_of_head?
    all_goals
      intro hc
      obtain ⟨s, hs⟩ := List.head?_eq_some_iff.mp hc
      exact hne (by decide) s hs
  rw [readLine, hnewline]
  · dsimp only
    rw [h.readPair_chars]
    show ((draft.setKey? [line.name] line.value).bind _) = _
    rw [setKey?_of_lookup hnew]
    rfl
  · exact hne (by decide)
  · exact fun s => hne (by decide) _
  · exact hne (by decide)

/-- **Lines add their entries in order.** -/
theorem readLines_chars {lines : List Line} (h : ∀ line ∈ lines, line.IsReadable)
    (hdistinct : (lines.map Line.name).Nodup) {draft : Draft}
    (hnew : ∀ line ∈ lines, draft.current.lookup line.name = none) {limit : Nat}
    (hlimit : lines.length < limit) :
    readLines limit draft (lines.flatMap Line.chars) =
      some { draft with current := draft.current ++ lines.map Line.entry } := by
  -- the names that are still to come are new to what has been read
  induction lines generalizing draft limit with
  | nil =>
    obtain ⟨limit, rfl⟩ := Nat.exists_eq_add_of_lt hlimit
    rw [List.flatMap_nil, readLines]
    simp [skipSpace]
  | cons line lines ih =>
    obtain ⟨limit, rfl⟩ : ∃ n, limit = n + 1 := Nat.exists_eq_succ_of_ne_zero (by omega)
    rw [List.forall_mem_cons] at h hnew
    rw [List.map_cons, List.nodup_cons] at hdistinct
    rw [List.length_cons] at hlimit
    have hspace : skipSpace (line.chars ++ lines.flatMap Line.chars) =
        line.chars ++ lines.flatMap Line.chars := by
      rw [Line.chars, List.append_assoc]
      exact h.1.skipSpace_append _
    have hnonempty : line.chars ++ lines.flatMap Line.chars ≠ [] := by
      simp [Line.chars]
    have hlater : ∀ other ∈ lines,
        (draft.current ++ [line.entry]).lookup other.name = none := by
      intro other hother
      have hne : other.name ≠ line.name := fun heq =>
        hdistinct.1 (heq ▸ List.mem_map_of_mem hother)
      rw [List.lookup_append, hnew.2 other hother, Line.entry, List.lookup_cons,
        beq_eq_false_iff_ne.mpr hne]
      rfl
    rw [List.flatMap_cons, readLines, hspace]
    split
    · next hnil => exact absurd hnil hnonempty
    · rw [readLine_chars h.1 hnew.1]
      show readLines limit _ _ = _
      rw [ih h.2 hdistinct.2 hlater (by omega)]
      simp

/-- **A document of lines has the entries of its lines.** -/
theorem ofText?_lines {lines : List Line} (h : ∀ line ∈ lines, line.IsReadable)
    (hdistinct : (lines.map Line.name).Nodup) {text : String}
    (htext : text.toList = lines.flatMap Line.chars) :
    ofText? text = some (lines.map Line.entry) := by
  have hmark (s : List Char) : lines.flatMap Line.chars ≠ '\ufeff' :: s := by
    rcases lines with - | ⟨line, lines⟩
    · exact nofun
    · rw [List.flatMap_cons, Line.chars, List.append_assoc]
      exact (h line List.mem_cons_self).ne_cons (by decide) _ s
  have hlimit : lines.length < (lines.flatMap Line.chars).length + 1 := by
    have hone : ∀ n ∈ lines.map fun line => line.chars.length, 1 ≤ n := by
      intro n hn
      obtain ⟨line, -, rfl⟩ := List.mem_map.mp hn
      rw [Line.chars, List.length_append, List.length_cons]
      omega
    have hlength := List.length_le_sum_of_one_le _ hone
    rw [List.length_map] at hlength
    rw [List.length_flatMap]
    exact Nat.lt_succ_of_le hlength
  rw [ofText?, htext]
  split
  · next hs => exact absurd hs (hmark _)
  · rw [readLines_chars h hdistinct (fun _ _ => rfl) hlimit]
    rfl

end SqlNotebook.Toml
