/-
SqlNotebook/Proofs/Token/Slots.lean

What a line keeps when it is cut into tokens and the tokens are joined by spaces again.  The
separators are lost, and an empty slot is filled:

    SET  x = 'a  b'      has the tokens  SET, null, x, =, 'a  b'
                         and becomes     SET null x = 'a  b'

`squeeze` takes a line without its separators, which is all of it that its slots hold
(`toList_squeeze`).  The joined tokens are cut into these tokens once more (`slots_join_split`).
So the joined tokens are the line, up to separators, exactly if no slot in front of the last
one is empty (`squeeze_join_split_iff`).
-/
import SqlNotebook.Proofs.Text.Cuts
import SqlNotebook.Token

namespace SqlNotebook.Token

/-! ### Slots -/

theorem separates_plain_iff {c : Char} : Mode.plain.separates c ↔ c = ' ' ∨ c = '\t' := by
  simp [Mode.separates, isSeparator]

/-- Separators have their meaning outside of quotes and parentheses only. -/
theorem plain_of_separates (mode : Mode) (c : Char) (h : mode.separates c) :
    mode = .plain ∧ mode.next c = .plain := by
  cases mode with
  | plain => rcases separates_plain_iff.mp h with rfl | rfl <;> exact ⟨rfl, rfl⟩
  | quoted quote => cases h
  | block => cases h

theorem cutInto_slots (line : List Char) :
    Chars.CutInto Mode.next Mode.separates .plain (Chars.trimStart line) (slots line) :=
  Chars.cutInto_scanPieces Mode.next Mode.separates .plain _

theorem mem_of_mem_slots {line slot : List Char} {c : Char} (hslot : slot ∈ slots line)
    (hc : c ∈ slot) : c ∈ line :=
  (List.dropWhile_sublist _).subset ((cutInto_slots line).mem slot hslot c hc)

/-- The first character of a line that is no blank is part of the first slot. -/
theorem slots_eq_extendFirst {line rest : List Char} {c : Char}
    (hline : Chars.trimStart line = c :: rest) :
    slots line = Chars.extendFirst c
      (Chars.scanPieces Mode.next Mode.separates (Mode.plain.next c) rest) := by
  have hblank : ¬ Chars.isBlank c := Chars.not_isBlank_of_head?_trimStart (by rw [hline]; rfl)
  have hcut : ¬ Mode.plain.separates c := by
    intro hseparates
    rcases separates_plain_iff.mp hseparates with rfl | rfl <;> exact hblank (by decide)
  rw [slots, hline, Chars.scanPieces, if_neg hcut]

/-- The first slot of a line starts with the first character of the line that is no blank. -/
theorem exists_slots_cons {line rest : List Char} {c : Char}
    (hline : Chars.trimStart line = c :: rest) :
    ∃ first behind, slots line = (c :: first) :: behind := by
  rw [slots_eq_extendFirst hline]
  rcases Chars.scanPieces Mode.next Mode.separates (Mode.plain.next c) rest with - | ⟨first, behind⟩
  · exact ⟨[], [], rfl⟩
  · exact ⟨first, behind, rfl⟩

/-! ### Tokens -/

variable {parts : List (List Char)} {token line : String}

/-- Every slot is a token, but for an empty one at the end. -/
theorem fillSlots_concat (finish : String → String) (front : List (List Char)) (last : List Char) :
    fillSlots finish (front ++ [last]) =
      (front.map fun slot => if slot.isEmpty then emptySlot else finish (String.ofList slot)) ++
        if last.isEmpty then [] else [finish (String.ofList last)] := by
  induction front with
  | nil => rfl
  | cons slot front ih =>
    obtain ⟨next, rest, hrest⟩ := List.exists_cons_of_ne_nil
      (List.append_ne_nil_of_right_ne_nil front (List.cons_ne_nil last []))
    rw [hrest] at ih
    rw [List.cons_append, hrest, fillSlots_cons_cons, ih]
    rfl

/-- Each slot is finished by itself, if what stands for an empty one is left as it is. -/
theorem fillSlots_eq_map {finish : String → String} (h : finish emptySlot = emptySlot)
    (parts : List (List Char)) : fillSlots finish parts = (fillSlots id parts).map finish := by
  rcases List.eq_nil_or_concat parts with rfl | ⟨front, last, rfl⟩
  · rfl
  · rw [List.concat_eq_append, fillSlots_concat, fillSlots_concat, List.map_append, List.map_map]
    congr 1
    · refine List.map_congr_left fun slot _ => ?_
      rw [Function.comp_apply]
      split
      · exact h.symm
      · rfl
    · split <;> rfl

theorem length_fillSlots_le (finish : String → String) (parts : List (List Char)) :
    (fillSlots finish parts).length ≤ parts.length := by
  rcases List.eq_nil_or_concat parts with rfl | ⟨front, last, rfl⟩
  · exact Nat.le_refl 0
  · rw [List.concat_eq_append, fillSlots_concat]
    split <;> simp

/-- A line has at most as many tokens as characters. -/
theorem length_split_le (line : String) : (split line).length ≤ line.length := by
  rcases hline : Chars.trimStart line.toList with - | ⟨c, rest⟩
  · rw [split, splitWith, slots, hline]
    exact Nat.zero_le _
  · have htrimmed : (c :: rest).length ≤ line.toList.length :=
      hline ▸ (List.dropWhile_sublist _).length_le
    have hslots : (slots line.toList).length ≤ (c :: rest).length := by
      rw [slots_eq_extendFirst hline, Chars.length_extendFirst (Chars.scanPieces_ne_nil _ _ _ rest)]
      exact Chars.length_scanPieces_le Mode.next Mode.separates (Mode.plain.next c) rest
    rw [String.length_toList] at htrimmed
    exact Nat.le_trans (length_fillSlots_le id _) (Nat.le_trans hslots htrimmed)

/-- A slot in front of the last one is filled or written out. -/
theorem of_mem_map_slot {front : List (List Char)}
    (h : token ∈ front.map fun slot => if slot.isEmpty then emptySlot else String.ofList slot) :
    token = emptySlot ∨ token ≠ "" ∧ token.toList ∈ front := by
  obtain ⟨slot, hslot, rfl⟩ := List.mem_map.mp h
  split
  · exact .inl rfl
  · rename_i hfilled
    refine .inr ⟨?_, by rwa [String.toList_ofList]⟩
    simpa [← String.toList_inj] using hfilled

theorem mem_fillSlots (h : token ∈ fillSlots id parts) :
    token = emptySlot ∨ token ≠ "" ∧ token.toList ∈ parts := by
  rcases List.eq_nil_or_concat parts with rfl | ⟨front, last, rfl⟩
  · cases h
  · rw [List.concat_eq_append] at h ⊢
    rw [fillSlots_concat, List.mem_append] at h
    rcases h with h | h
    · exact (of_mem_map_slot h).imp_right (.imp_right (List.mem_append_left [last]))
    · split at h
      · cases h
      · rename_i hfilled
        rw [List.mem_singleton.mp h]
        exact .inr ⟨by simpa [← String.toList_inj] using hfilled, by simp⟩

/-- What is filled in front of the last token is in front of the last slot. -/
theorem mem_dropLast_fillSlots (h : token ∈ (fillSlots id parts).dropLast) :
    token = emptySlot ∨ token.toList ∈ parts.dropLast := by
  rcases List.eq_nil_or_concat parts with rfl | ⟨front, last, rfl⟩
  · cases h
  · rw [List.concat_eq_append, List.dropLast_concat]
    rw [List.concat_eq_append, fillSlots_concat] at h
    refine (of_mem_map_slot ?_).imp_right And.right
    split at h
    · rw [List.append_nil] at h
      exact List.dropLast_subset _ h
    · rwa [List.dropLast_concat] at h

/-- A character that is not in the line is in no token, except for those of `null`. -/
theorem not_mem_of_mem_split {c : Char} (hline : c ∉ line.toList) (hnull : c ∉ emptySlot.toList)
    (htoken : token ∈ split line) : c ∉ token.toList := by
  rcases mem_fillSlots htoken with rfl | ⟨-, hslot⟩
  · exact hnull
  · exact fun hc => hline (mem_of_mem_slots hslot hc)

theorem uncut_emptySlot : Chars.Uncut Mode.next Mode.separates .plain emptySlot.toList := by
  have hchars : emptySlot.toList = ['n', 'u', 'l', 'l'] := rfl
  simp [hchars, Chars.uncut_cons_iff, Chars.uncut_nil, Mode.next, Mode.separates, isSeparator, isQuote]

theorem uncut_of_mem_split (h : token ∈ split line) :
    Chars.Uncut Mode.next Mode.separates .plain token.toList := by
  rcases mem_fillSlots h with rfl | ⟨-, hslot⟩
  · exact uncut_emptySlot
  · exact ((cutInto_slots line.toList).of_home plain_of_separates).1 _ hslot

theorem closed_of_mem_dropLast_split (h : token ∈ (split line).dropLast) :
    token.toList.foldl Mode.next .plain = .plain := by
  rcases mem_dropLast_fillSlots h with rfl | hslot
  · rfl
  · exact ((cutInto_slots line.toList).of_home plain_of_separates).2 _ hslot

/-- The tokens of a line start with what the line starts with. -/
theorem head?_join_split (line : String) :
    (Text.join " " (split line)).toList.head? = (Chars.trimStart line.toList).head? := by
  rcases hline : Chars.trimStart line.toList with - | ⟨c, rest⟩
  · rw [split, splitWith, slots, hline]
    rfl
  · obtain ⟨first, behind, hslots⟩ := exists_slots_cons hline
    rw [split, splitWith, hslots]
    rcases behind with - | ⟨next, behind⟩
    · simp [fillSlots]
    · rcases htokens : fillSlots id (next :: behind) with - | ⟨token, tokens⟩
      · simp [fillSlots, htokens]
      · simp [fillSlots, htokens, List.intercalate_cons_cons]

theorem trimStart_join_split (line : String) :
    Chars.trimStart (Text.join " " (split line)).toList = (Text.join " " (split line)).toList := by
  refine Chars.trimStart_of_head? fun c hc => ?_
  rw [head?_join_split] at hc
  exact Chars.not_isBlank_of_head?_trimStart hc

/-- **Tokens that are joined by spaces are cut apart again.** -/
theorem slots_join_split (hne : split line ≠ []) :
    slots (Text.join " " (split line)).toList = (split line).map String.toList := by
  have hcuts : Chars.CutInto Mode.next Mode.separates .plain
      ([' '].intercalate ((split line).map String.toList)) ((split line).map String.toList) := by
    refine .intercalate rfl rfl (mt List.map_eq_nil_iff.mp hne) ?_ ?_
    · exact List.forall_mem_map.mpr fun token => uncut_of_mem_split
    · rw [← List.map_dropLast]
      exact List.forall_mem_map.mpr fun token => closed_of_mem_dropLast_split
  rw [slots, trimStart_join_split, Text.toList_join]
  exact hcuts.eq

theorem ne_empty_of_mem_split (h : token ∈ split line) : token ≠ "" := by
  rcases mem_fillSlots h with rfl | ⟨hfilled, -⟩
  · decide
  · exact hfilled

/-- Slots that are all written out are tokens as they are. -/
theorem fillSlots_map_toList {tokens : List String} (h : ∀ token ∈ tokens, token ≠ "") :
    fillSlots id (tokens.map String.toList) = tokens := by
  induction tokens with
  | nil => rfl
  | cons token tokens ih =>
    rw [List.forall_mem_cons] at h
    have hfilled : ¬ token.toList.isEmpty := by simpa using h.1
    rcases tokens with - | ⟨next, tokens⟩
    · rw [List.map_singleton, fillSlots, if_neg hfilled, String.ofList_toList]
      rfl
    · rw [List.map_cons, List.map_cons, fillSlots_cons_cons, if_neg hfilled, String.ofList_toList,
        ← List.map_cons, ih h.2]
      rfl

theorem split_join_split (line : String) : split (Text.join " " (split line)) = split line := by
  by_cases hnone : split line = []
  · rw [hnone]
    rfl
  · have hslots := slots_join_split hnone
    show fillSlots id (slots (Text.join " " (split line)).toList) = split line
    rw [hslots]
    exact fillSlots_map_toList fun token => ne_empty_of_mem_split

/-! ### Lines without their separators -/

/-- A text without the separators in it, read from the given mode on. -/
def squeezeChars : Mode → List Char → List Char
  | _, [] => []
  | mode, c :: rest =>
    if mode.separates c then squeezeChars (mode.next c) rest
    else c :: squeezeChars (mode.next c) rest

/-- A line without blanks at its front and without the spaces and tabs that stand outside of
quotes and parentheses, which do not nest. -/
def squeeze (line : String) : String :=
  String.ofList (squeezeChars .plain (Chars.trimStart line.toList))

theorem squeezeChars_eq_flatten (mode : Mode) (s : List Char) :
    squeezeChars mode s = (Chars.scanPieces Mode.next Mode.separates mode s).flatten := by
  induction s generalizing mode with
  | nil => rfl
  | cons c s ih =>
    rw [squeezeChars, Chars.scanPieces, ih]
    by_cases hcut : mode.separates c
    · rw [if_pos hcut, if_pos hcut]
      rfl
    · obtain ⟨first, rest, hpieces⟩ := List.exists_cons_of_ne_nil
        (Chars.scanPieces_ne_nil Mode.next Mode.separates (mode.next c) s)
      rw [if_neg hcut, if_neg hcut, hpieces]
      rfl

/-- A line without its separators is what its slots hold. -/
theorem toList_squeeze (line : String) : (squeeze line).toList = (slots line.toList).flatten := by
  rw [squeeze, String.toList_ofList, squeezeChars_eq_flatten]
  rfl

/-! ### What the tokens of a line hold -/

theorem length_flatten_fillSlots (parts : List (List Char)) :
    parts.flatten.length ≤ ((fillSlots id parts).map String.toList).flatten.length := by
  induction parts with
  | nil => exact Nat.le_refl 0
  | cons slot parts ih =>
    rcases parts with - | ⟨next, parts⟩
    · rcases slot with - | ⟨c, slot⟩ <;> simp [fillSlots]
    · have hslot : slot.length ≤
          (if slot.isEmpty then emptySlot else String.ofList slot).toList.length := by
        rcases slot with - | ⟨c, slot⟩ <;> simp
      show (slot ++ (next :: parts).flatten).length ≤
        (_ ++ ((fillSlots id (next :: parts)).map String.toList).flatten).length
      rw [List.length_append, List.length_append]
      exact Nat.add_le_add hslot ih

/-- The tokens hold what the slots hold, unless a slot has been filled. -/
theorem flatten_fillSlots_iff (parts : List (List Char)) :
    ((fillSlots id parts).map String.toList).flatten = parts.flatten ↔
      ∀ slot ∈ parts.dropLast, slot ≠ [] := by
  induction parts with
  | nil => simp [fillSlots]
  | cons slot parts ih =>
    rcases parts with - | ⟨next, parts⟩
    · rcases slot with - | ⟨c, slot⟩ <;> simp [fillSlots]
    · rw [fillSlots_cons_cons, List.map_cons, List.flatten_cons, List.flatten_cons,
        List.dropLast_cons_of_ne_nil (List.cons_ne_nil _ _), List.forall_mem_cons, ← ih]
      rcases slot with - | ⟨c, slot⟩
      · -- the filled slot makes the tokens longer
        have hlength := length_flatten_fillSlots (next :: parts)
        have hnull : emptySlot.toList.length = 4 := rfl
        refine ⟨fun h => ?_, fun h => absurd rfl h.1⟩
        have htotal := congrArg List.length h
        rw [List.length_append, List.length_append] at htotal
        simp only [List.isEmpty_nil, if_true, hnull, List.length_nil] at htotal
        omega
      · simp

/-- **The tokens of a line, joined by spaces, are the line up to its separators, exactly if no
slot of the line has been filled.** -/
theorem squeeze_join_split_iff (line : String) :
    squeeze (Text.join " " (split line)) = squeeze line ↔
      ∀ slot ∈ (slots line.toList).dropLast, slot ≠ [] := by
  have hjoined : (slots (Text.join " " (split line)).toList).flatten =
      ((split line).map String.toList).flatten := by
    by_cases hnone : split line = []
    · rw [hnone]
      rfl
    · rw [slots_join_split hnone]
  rw [← String.toList_inj, toList_squeeze, toList_squeeze, hjoined]
  exact flatten_fillSlots_iff (slots line.toList)

end SqlNotebook.Token
