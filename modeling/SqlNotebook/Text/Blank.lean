/-
SqlNotebook/Text/Blank.lean

Blank characters, and the cuts that are made at them: trimming a text at its
ends, cutting it into words, cutting it into lines.

Every operation exists twice.  `Chars.trim`, `Chars.words` and `Chars.lines`
work on lists of characters; `Text.trim` and its companions carry them to
strings, and `toList_trim` and its companions lead back.
-/
import SqlNotebook.Text.Pieces

namespace SqlNotebook

namespace Chars

/-- The code points that Unicode lists as white space, as inclusive ranges. -/
def blankRanges : List (Nat × Nat) :=
  [(0x09, 0x0D), (0x20, 0x20), (0x85, 0x85), (0xA0, 0xA0), (0x1680, 0x1680),
    (0x2000, 0x200A), (0x2028, 0x2029), (0x202F, 0x202F), (0x205F, 0x205F), (0x3000, 0x3000)]

/-- Whether a character is white space in the sense of Unicode. -/
def isBlank (c : Char) : Bool :=
  blankRanges.any fun range => range.1 ≤ c.toNat && c.toNat ≤ range.2

/-- Drops the blanks at the start. -/
def trimStart (s : List Char) : List Char :=
  s.dropWhile isBlank

theorem trimStart_of_all {s : List Char} (h : s.all isBlank) : trimStart s = [] := by
  induction s with
  | nil => rfl
  | cons c rest ih =>
    rw [List.all_cons, Bool.and_eq_true] at h
    rw [trimStart, List.dropWhile_cons_of_pos h.1]
    exact ih h.2

theorem trimStart_of_head? {s : List Char} (h : ∀ c, s.head? = some c → ¬ isBlank c) :
    trimStart s = s := by
  rcases s with - | ⟨c, rest⟩
  · rfl
  · exact List.dropWhile_cons_of_neg (h c rfl)

/-- A text without blanks at its front starts with no blank. -/
theorem not_isBlank_of_head?_trimStart {s : List Char} {c : Char}
    (h : (trimStart s).head? = some c) : ¬ isBlank c := by
  have hblank := List.head?_dropWhile_not isBlank s
  rw [show (s.dropWhile isBlank).head? = some c from h] at hblank
  exact Bool.eq_false_iff.mp hblank

/-- Drops the blanks at the end. -/
def trimEnd (s : List Char) : List Char :=
  (s.reverse.dropWhile isBlank).reverse

/-- Drops the blanks at both ends. -/
def trim (s : List Char) : List Char :=
  trimEnd (trimStart s)

theorem trim_blanks_append {blanks s : List Char} (hblanks : blanks.all isBlank) :
    trim (blanks ++ s) = trim s := by
  rw [trim, trimStart, List.dropWhile_append_of_pos (List.all_eq_true.mp hblanks)]
  rfl

theorem trim_of_not_isBlank {s : List Char} (h : ∀ c ∈ s, ¬ isBlank c) : trim s = s := by
  have hend : s.reverse.dropWhile isBlank = s.reverse :=
    trimStart_of_head? fun c hc => h c (List.mem_reverse.mp (List.mem_of_head? hc))
  rw [trim, trimStart_of_head? fun c hc => h c (List.mem_of_head? hc), trimEnd, hend,
    List.reverse_reverse]

/-- The maximal runs of characters that are not blank. -/
def words (s : List Char) : List (List Char) :=
  (pieces isBlank s).filter fun piece => !piece.isEmpty

/-- Drops one carriage return at the end. -/
def dropReturn (s : List Char) : List Char :=
  if s.getLast? = some '\r' then s.dropLast else s

/-- Reads the pieces between newlines as lines: a carriage return in front of a
newline belongs to the newline, and nothing after the last newline is no line. -/
def closeLines : List (List Char) → List (List Char)
  | [] => []
  | [last] => if last.isEmpty then [] else [last]
  | line :: rest => dropReturn line :: closeLines rest

/-- The lines of a text, without their ends. -/
def lines (s : List Char) : List (List Char) :=
  closeLines (pieces (· == '\n') s)

theorem dropReturn_sublist (line : List Char) : (dropReturn line).Sublist line := by
  rw [dropReturn]
  split
  · exact List.dropLast_sublist line
  · exact List.Sublist.refl line

/-- A line is made of characters of a piece. -/
theorem mem_closeLines {parts : List (List Char)} {line : List Char}
    (h : line ∈ closeLines parts) : ∃ piece ∈ parts, line.Sublist piece := by
  induction parts with
  | nil => cases h
  | cons first rest ih =>
    rcases rest with - | ⟨second, rest⟩
    · rw [closeLines] at h
      split at h
      · cases h
      · exact ⟨first, List.mem_cons_self, List.mem_singleton.mp h ▸ List.Sublist.refl _⟩
    · rw [closeLines] at h
      · rcases List.mem_cons.mp h with rfl | h
        · exact ⟨first, List.mem_cons_self, dropReturn_sublist first⟩
        · obtain ⟨piece, hpiece, hsublist⟩ := ih h
          exact ⟨piece, List.mem_cons_of_mem _ hpiece, hsublist⟩
      · exact nofun

theorem newline_not_mem_of_mem_lines {s line : List Char} (h : line ∈ lines s) :
    '\n' ∉ line := by
  intro hnewline
  obtain ⟨piece, hpiece, hsublist⟩ := mem_closeLines h
  exact (of_mem_pieces hpiece '\n' (hsublist.subset hnewline)).2 rfl

/-- Without carriage returns, only the newline at the end gets lost. -/
theorem intercalate_closeLines {parts : List (List Char)}
    (h : ∀ piece ∈ parts, '\r' ∉ piece) :
    ['\n'].intercalate parts = ['\n'].intercalate (closeLines parts) ∨
      ['\n'].intercalate parts = ['\n'].intercalate (closeLines parts) ++ ['\n'] := by
  induction parts with
  | nil => exact .inl rfl
  | cons first rest ih =>
    rw [List.forall_mem_cons] at h
    rcases rest with - | ⟨second, rest⟩
    · rcases first with - | ⟨c, first⟩ <;> exact .inl rfl
    · have hreturn : dropReturn first = first :=
        if_neg fun hlast => h.1 (List.mem_of_getLast? hlast)
      have hclose : closeLines (first :: second :: rest) = first :: closeLines (second :: rest) := by
        rw [closeLines, hreturn]
        exact nofun
      rw [hclose]
      rcases hlines : closeLines (second :: rest) with - | ⟨line, lines⟩
      · -- what is left is one empty piece
        have hrest : second = [] ∧ rest = [] := by
          rcases rest with - | ⟨third, rest⟩
          · rcases second with - | ⟨c, second⟩
            · exact ⟨rfl, rfl⟩
            · cases hlines
          · cases hlines
        rw [hrest.1, hrest.2]
        right
        simp
      · rw [List.intercalate_cons_cons, List.intercalate_cons_cons, ← hlines,
          List.append_assoc _ _ ['\n'], List.append_right_inj, List.append_right_inj]
        exact ih h.2

/-- Whether `part` occurs as a run of characters. -/
def occurs (part : List Char) : List Char → Bool
  | [] => part.isEmpty
  | c :: rest => part.isPrefixOf (c :: rest) || occurs part rest

theorem occurs_iff_isInfix {part s : List Char} : occurs part s ↔ part <:+: s := by
  induction s with
  | nil => rw [occurs, List.isEmpty_iff, List.infix_nil]
  | cons c s ih =>
    rw [occurs, Bool.or_eq_true, List.isPrefixOf_iff_prefix, ih, List.infix_cons_iff]

end Chars

namespace Text

/-- Carries an operation on characters to strings. -/
def onChars (f : List Char → List Char) (s : String) : String :=
  String.ofList (f s.toList)

@[simp] theorem toList_onChars (f : List Char → List Char) (s : String) :
    (onChars f s).toList = f s.toList := by
  simp [onChars]

/-- Drops the blanks at the start. -/
def trimStart (s : String) : String :=
  onChars Chars.trimStart s

/-- Drops the blanks at the end. -/
def trimEnd (s : String) : String :=
  onChars Chars.trimEnd s

/-- Drops the blanks at both ends. -/
def trim (s : String) : String :=
  onChars Chars.trim s

/-- Whether there is nothing but blanks. -/
def isBlank (s : String) : Bool :=
  s.toList.all Chars.isBlank

/-- The maximal runs of characters that are not blank. -/
def words (s : String) : List String :=
  (Chars.words s.toList).map String.ofList

/-- The lines of a text, without their ends. -/
def lines (s : String) : List String :=
  (Chars.lines s.toList).map String.ofList

/-- The words of `parts` with `separator` between them. -/
def join (separator : String) (parts : List String) : String :=
  separator.intercalate parts

/-- What stands in front of the first `mark`, and what stands behind it. -/
def cutAt? (mark : Char) (s : String) : Option (String × String) :=
  (Chars.cutAt? mark s.toList).map fun (before, behind) =>
    (String.ofList before, String.ofList behind)

/-- Replaces every newline by a space. -/
def foldNewlines (s : String) : String :=
  onChars (List.map fun c => if c = '\n' then ' ' else c) s

/-- Whether `part` occurs in `s`. -/
def contains (s part : String) : Bool :=
  Chars.occurs part.toList s.toList

@[simp] theorem toList_trim (s : String) : (trim s).toList = Chars.trim s.toList := by
  simp [trim]

@[simp] theorem toList_join (separator : String) (parts : List String) :
    (join separator parts).toList = separator.toList.intercalate (parts.map String.toList) := by
  simp [join]

end Text

end SqlNotebook
