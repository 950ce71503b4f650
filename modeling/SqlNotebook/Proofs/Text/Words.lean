/-
SqlNotebook/Proofs/Text/Words.lean

The first word of a text, in the two ways in which a word is told.  Cut at blanks, a text is
blanks, its first word, and what follows it, which is nothing or starts with a blank
(`exists_of_words_eq_cons`).  A command word is made of letters, and one of four characters or
nothing follows it (`exists_of_commandWord`).  These four are blanks, so where a text has a
command word, that word is what it is cut into first.
-/
import SqlNotebook.Instruction.CommandWord
import SqlNotebook.Text.Blank

namespace SqlNotebook.Chars

variable {s word rest blanks : List Char}

/-! ### Words between blanks -/

theorem words_blanks_append (hblanks : blanks.all isBlank) (s : List Char) :
    words (blanks ++ s) = words s := by
  induction blanks with
  | nil => rfl
  | cons c blanks ih =>
    rw [List.all_cons, Bool.and_eq_true] at hblanks
    rw [List.cons_append, words, pieces_cons, if_pos hblanks.1, List.filter_cons_of_neg (by decide)]
    exact ih hblanks.2

/-- A word that blanks or the end follow is the first word. -/
theorem words_append (hne : word ≠ []) (hword : ∀ c ∈ word, ¬ isBlank c)
    (hrest : ∀ c, rest.head? = some c → isBlank c) : words (word ++ rest) = word :: words rest := by
  have hpieces : pieces isBlank (word ++ rest) = word :: (pieces isBlank rest).tail := by
    clear hne
    induction word with
    | nil =>
      rcases rest with - | ⟨c, rest⟩
      · rfl
      · rw [List.nil_append, pieces_cons, if_pos (hrest c rfl)]
        rfl
    | cons c word ih =>
      rw [List.forall_mem_cons] at hword
      rw [List.cons_append, pieces_cons, if_neg hword.1, ih hword.2, extendFirst]
  have hbehind : words rest = (pieces isBlank rest).tail.filter fun piece => !piece.isEmpty := by
    rcases rest with - | ⟨c, rest⟩
    · rfl
    · rw [words, pieces_cons, if_pos (hrest c rfl), List.filter_cons_of_neg (by decide)]
      rfl
  rw [hbehind, words, hpieces, List.filter_cons_of_pos (by simpa using hne)]

theorem words_trimStart (s : List Char) : words (trimStart s) = words s := by
  have hsplit : s.takeWhile isBlank ++ trimStart s = s := List.takeWhile_append_dropWhile
  have hblanks : (s.takeWhile isBlank).all isBlank := List.all_takeWhile
  have hwords := words_blanks_append hblanks (trimStart s)
  rw [hsplit] at hwords
  exact hwords.symm

/-- Where the first word of a text stands. -/
theorem exists_of_words_eq_cons {more : List (List Char)} (h : words s = word :: more) :
    ∃ blanks rest, s = blanks ++ (word ++ rest) ∧ blanks.all isBlank ∧ word ≠ [] ∧
      (∀ c ∈ word, ¬ isBlank c) ∧ ∀ c, rest.head? = some c → isBlank c := by
  -- the word is cut off where the next blank is, and the pieces are compared afterwards
  let inWord (c : Char) : Bool := !isBlank c
  let first := (trimStart s).takeWhile inWord
  let rest := (trimStart s).dropWhile inWord
  have hsplit : first ++ rest = trimStart s := List.takeWhile_append_dropWhile
  have hfirst : ∀ c ∈ first, ¬ isBlank c := fun c hc => by
    simpa [inWord] using List.all_eq_true.mp List.all_takeWhile c hc
  have hrest : ∀ c, rest.head? = some c → isBlank c := fun c hc => by
    have hstop := List.head?_dropWhile_not inWord (trimStart s)
    rw [show ((trimStart s).dropWhile inWord).head? = some c from hc] at hstop
    simpa [inWord] using hstop
  have hne : first ≠ [] := by
    rcases hstart : trimStart s with - | ⟨c, t⟩
    · rw [← words_trimStart, hstart] at h
      cases h
    · have hc : ¬ isBlank c := not_isBlank_of_head?_trimStart (by rw [hstart]; rfl)
      show (trimStart s).takeWhile inWord ≠ []
      rw [hstart, List.takeWhile_cons_of_pos (by simpa [inWord] using hc)]
      exact List.cons_ne_nil _ _
  have hwords : words s = first :: words rest := by
    rw [← words_trimStart, ← hsplit, words_append hne hfirst hrest]
  rw [h] at hwords
  obtain ⟨rfl, -⟩ := List.cons.inj hwords
  refine ⟨s.takeWhile isBlank, rest, ?_, List.all_takeWhile, hne, hfirst, hrest⟩
  rw [hsplit, trimStart, List.takeWhile_append_dropWhile]

/-! ### Command words -/

theorem isBlank_of_isCommandSpace {c : Char} (h : isCommandSpace c) : isBlank c := by
  simp only [isCommandSpace, Bool.or_eq_true, decide_eq_true_eq] at h
  rcases h with ((rfl | rfl) | rfl) | rfl <;> decide

theorem not_isCommandSpace_of_isAlpha {c : Char} (h : c.isAlpha) : ¬ isCommandSpace c := by
  intro hspace
  simp only [isCommandSpace, Bool.or_eq_true, decide_eq_true_eq] at hspace
  rcases hspace with ((rfl | rfl) | rfl) | rfl <;> exact absurd h (by decide)

theorem isAlpha_iff {c : Char} :
    c.isAlpha ↔ (65 ≤ c.toNat ∧ c.toNat ≤ 90) ∨ (97 ≤ c.toNat ∧ c.toNat ≤ 122) := by
  show (decide (65 ≤ c.val ∧ c.val ≤ 90) || decide (97 ≤ c.val) && decide (c.val ≤ 122)) = true ↔ _
  simp only [Bool.or_eq_true, Bool.and_eq_true, decide_eq_true_eq, UInt32.le_iff_toNat_le]
  rfl

theorem not_isBlank_of_isAlpha {c : Char} (h : c.isAlpha) : ¬ isBlank c := by
  rw [isAlpha_iff] at h
  simp [isBlank, blankRanges]
  omega

theorem isAlpha_of_isAlpha_toUpper {c : Char} (h : c.toUpper.isAlpha) : c.isAlpha := by
  by_cases hlower : 97 ≤ c.val ∧ c.val ≤ 122
  · rw [UInt32.le_iff_toNat_le, UInt32.le_iff_toNat_le] at hlower
    exact isAlpha_iff.mpr (.inr hlower)
  · have hsame : c.toUpper = c := dif_neg hlower
    rwa [hsame] at h

/-- What is a run of letters in upper case is one in any case. -/
theorem all_isAlpha_of_upperAscii (h : (upperAscii word).all Char.isAlpha) :
    word.all Char.isAlpha := by
  rw [upperAscii, List.all_map, List.all_eq_true] at h
  exact List.all_eq_true.mpr fun c hc => isAlpha_of_isAlpha_toUpper (h c hc)

/-- Letters that are followed by one of the four characters, or by nothing, are the command
word. -/
theorem commandWord_append (hne : word ≠ []) (hword : word.all Char.isAlpha)
    (hrest : ∀ c, rest.head? = some c → isCommandSpace c) :
    commandWord (word ++ rest) = upperAscii word := by
  have hstart : (word ++ rest).dropWhile isCommandSpace = word ++ rest := by
    obtain ⟨c, word, rfl⟩ := List.exists_cons_of_ne_nil hne
    rw [List.all_cons, Bool.and_eq_true] at hword
    exact List.dropWhile_cons_of_neg (not_isCommandSpace_of_isAlpha hword.1)
  have hletters : ∀ c ∈ word, c.isAlpha := List.all_eq_true.mp hword
  unfold commandWord
  rw [hstart]
  dsimp only
  rw [List.dropWhile_append_of_pos hletters, List.takeWhile_append_of_pos hletters]
  rcases rest with - | ⟨c, rest⟩
  · rw [List.append_nil]
    rfl
  · have hspace := hrest c rfl
    have halpha : ¬ c.isAlpha := fun h => not_isCommandSpace_of_isAlpha h hspace
    rw [List.dropWhile_cons_of_neg halpha, List.takeWhile_cons_of_neg halpha, List.append_nil]
    exact if_pos hspace

/-- Where the command word of a text without blanks in front stands. -/
theorem exists_of_commandWord (hstart : ∀ c, s.head? = some c → ¬ isBlank c)
    (h : commandWord s = word) (hne : word ≠ []) :
    ∃ letters rest, s = letters ++ rest ∧ letters.all Char.isAlpha ∧ upperAscii letters = word ∧
      ∀ c, rest.head? = some c → isCommandSpace c := by
  have hs : s.dropWhile isCommandSpace = s := by
    rcases s with - | ⟨c, s⟩
    · rfl
    · exact List.dropWhile_cons_of_neg fun hc => hstart c rfl (isBlank_of_isCommandSpace hc)
  unfold commandWord at h
  rw [hs] at h
  dsimp only at h
  refine ⟨s.takeWhile Char.isAlpha, s.dropWhile Char.isAlpha,
    List.takeWhile_append_dropWhile.symm, List.all_takeWhile, ?_⟩
  split at h
  · next hrest =>
    have hall : s.takeWhile Char.isAlpha ++ s.dropWhile Char.isAlpha = s :=
      List.takeWhile_append_dropWhile
    rw [hrest, List.append_nil] at hall
    rw [hall, hrest]
    exact ⟨h, nofun⟩
  · next c rest hrest =>
    split at h
    · next hspace =>
      rw [hrest]
      refine ⟨h, fun d hd => ?_⟩
      obtain rfl := Option.some.inj hd
      exact hspace
    · exact absurd h.symm hne

end SqlNotebook.Chars
