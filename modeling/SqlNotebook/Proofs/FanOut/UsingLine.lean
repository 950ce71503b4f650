/-
SqlNotebook/Proofs/FanOut/UsingLine.lean

How a line with `USING` is read.  It is read twice: once as an instruction, which takes its words
apart at blanks, and once as the query of a fan-out, which takes `USING` and the name off its
front.  Both cut it at the same places:

    USING ids   WITH T AS (…) SELECT …      word  USING     gap  the blank behind it
                                            name  ids       behind  what follows, with its blanks

A text is an instruction of this kind exactly if it can be cut in this way; the character behind
`USING` is one of the four that end a command word, and all other blanks are white space of any
kind.  The query is then what stands behind the name, from its first character that is not blank
(`body_of_using`).
-/
import SqlNotebook.FanOut.Query
import SqlNotebook.Instruction.Basic
import SqlNotebook.Proofs.Statement.Folding
import SqlNotebook.Proofs.Text.Words

namespace SqlNotebook

namespace Chars

/-- The end of a text that has been trimmed is only trimmed in front. -/
theorem trim_of_trim_append {s t : List Char} (h : trim (s ++ t) = s ++ t) :
    trim t = trimStart t := by
  by_cases hnil : trimStart t = []
  · rw [trim, hnil]
    rfl
  have hsplit : s ++ t = s ++ t.takeWhile isBlank ++ trimStart t := by
    rw [List.append_assoc, trimStart, List.takeWhile_append_dropWhile]
  have hend : trimEnd (s ++ t) = s ++ t := by
    rw [← h]
    exact List.rdropWhile_idempotent isBlank _
  refine List.rdropWhile_eq_self_iff.mpr fun hne => ?_
  have hlast := List.rdropWhile_eq_self_iff.mp hend
  simp only [hsplit] at hlast
  have hall : s ++ t.takeWhile isBlank ++ trimStart t ≠ [] :=
    List.append_ne_nil_of_right_ne_nil _ hne
  rw [← List.getLast_append_of_ne_nil hall hne]
  exact hlast hall

/-- A text that has been trimmed does not end in blanks. -/
theorem eq_nil_of_trim_append {s blanks : List Char} (h : trim (s ++ blanks) = s ++ blanks)
    (hblanks : blanks.all isBlank) : blanks = [] := by
  have hend : trimEnd s = s ++ blanks := by
    rw [← trimEnd_append_blanks hblanks, ← h]
    exact List.rdropWhile_idempotent isBlank _
  have hlength : (trimEnd s).length ≤ s.length := (List.rdropWhile_prefix isBlank s).length_le
  rw [hend, List.length_append] at hlength
  exact List.length_eq_zero_iff.mp (by omega)

end Chars

namespace Instruction

/-- A text is cut into `USING`, blanks, a name, and what stands behind the name. -/
structure UsingParts (word gap name behind : List Char) : Prop where
  spelling : Chars.upperAscii word = "USING".toList
  blank : gap.all Chars.isBlank
  /-- What follows `USING` ends a command word. -/
  ends : ∃ c rest, gap = c :: rest ∧ Chars.isCommandSpace c
  nonempty : name ≠ []
  unbroken : ∀ c ∈ name, ¬ Chars.isBlank c
  apart : ∀ c, behind.head? = some c → Chars.isBlank c

namespace UsingParts

variable {word gap name behind : List Char} (h : UsingParts word gap name behind)

include h

theorem length_word : word.length = "USING".toList.length := by
  rw [← h.spelling, Chars.upperAscii, List.length_map]

theorem all_isAlpha : word.all Char.isAlpha :=
  Chars.all_isAlpha_of_upperAscii (h.spelling ▸ rfl)

theorem word_ne_nil : word ≠ [] := by
  rintro rfl
  exact absurd h.length_word (by decide)

/-- A text that starts with `USING` starts with no blank. -/
theorem trimStart_append (rest : List Char) : Chars.trimStart (word ++ rest) = word ++ rest := by
  refine Chars.trimStart_of_head? fun c hc => ?_
  rw [List.head?_append_of_ne_nil _ h.word_ne_nil] at hc
  have halpha := List.all_eq_true.mp h.all_isAlpha c (List.mem_of_head? hc)
  exact Chars.not_isBlank_of_isAlpha halpha

theorem commandWord_append (rest : List Char) :
    Chars.commandWord (word ++ (gap ++ rest)) = "USING".toList := by
  obtain ⟨c, more, rfl, hspace⟩ := h.ends
  rw [Chars.commandWord_append h.word_ne_nil h.all_isAlpha, h.spelling]
  intro d hd
  obtain rfl := Option.some.inj hd
  exact hspace

theorem drop_append (rest : List Char) : (word ++ rest).drop "USING".toList.length = rest := by
  rw [← h.length_word, List.drop_left]

/-- The name is what stands behind the blanks. -/
theorem trimStart_gap : Chars.trimStart (gap ++ (name ++ behind)) = name ++ behind := by
  rw [Chars.trimStart, List.dropWhile_append_of_pos (List.all_eq_true.mp h.blank)]
  refine Chars.trimStart_of_head? fun c hc => ?_
  rw [List.head?_append_of_ne_nil _ h.nonempty] at hc
  exact h.unbroken c (List.mem_of_head? hc)

end UsingParts

/-! ### The instruction -/

/-- Only a text with the word `USING` is such an instruction, with the first word behind it. -/
theorem eq_of_ofWord_using {word text rest name query : String}
    (h : ofWord word text rest = .ok (.using name query)) :
    word = "USING" ∧ query = text ∧ ∃ more, Text.words rest = name :: more := by
  unfold ofWord at h
  dsimp only at h
  split at h
  case h_8 =>
    split at h
    · next heq =>
      cases h
      exact ⟨rfl, rfl, _, heq⟩
    · cases h
  all_goals
    repeat' split at h
    all_goals cases h

/-- A text that is cut in this way is an instruction with this name. -/
theorem ofText_of_usingParts {text name : String} {word gap behind : List Char}
    (h : UsingParts word gap name.toList behind)
    (htext : (Text.trim text).toList = word ++ (gap ++ (name.toList ++ behind))) :
    ofText text = .ok (.using name (Text.trim text)) := by
  have hask : Text.trim text ≠ "?" := by
    intro hask
    have hlength := congrArg List.length htext
    rw [hask, List.length_append, h.length_word] at hlength
    exact absurd hlength (by simp; omega)
  have hcommand : commandWord (Text.trim text) = "USING" := by
    rw [commandWord, htext, h.commandWord_append]
    rfl
  have htrim : Chars.trim (gap ++ (name.toList ++ behind)) = name.toList ++ behind := by
    rw [Chars.trim_of_trim_append (s := word) (by rw [← htext, Text.toList_trim, Chars.trim_trim]),
      h.trimStart_gap]
  have hwords : Text.words (Text.trim (String.ofList
      ((Text.trim text).toList.drop "USING".toList.length))) =
        name :: (Chars.words behind).map String.ofList := by
    rw [Text.words, Text.toList_trim, String.toList_ofList, htext, h.drop_append, htrim,
      Chars.words_append h.nonempty h.unbroken h.apart, List.map_cons, String.ofList_toList]
  rw [ofText]
  dsimp only
  rw [if_neg hask, hcommand, ofWord, hwords]

/-- An instruction of this kind can be cut in this way. -/
theorem exists_usingParts {text name query : String}
    (h : ofText text = .ok (.using name query)) :
    query = Text.trim text ∧ ∃ word gap behind, UsingParts word gap name.toList behind ∧
      query.toList = word ++ (gap ++ (name.toList ++ behind)) := by
  rw [ofText] at h
  dsimp only at h
  split at h
  · cases h
  obtain ⟨hcommand, rfl, more, hwords⟩ := eq_of_ofWord_using h
  refine ⟨rfl, ?_⟩
  -- the word, and what stands behind it
  have hspelled : Chars.commandWord (Text.trim text).toList = "USING".toList := by
    rw [← hcommand, commandWord, String.toList_ofList]
  obtain ⟨word, rest, hsplit, halpha, hupper, hrest⟩ := Chars.exists_of_commandWord
    (fun c hc => Chars.not_isBlank_of_head?_trim (Text.toList_trim text ▸ hc)) hspelled (by decide)
  have hlength : word.length = "USING".toList.length := by
    rw [← hupper, Chars.upperAscii, List.length_map]
  have htrim : Chars.trim rest = Chars.trimStart rest := by
    refine Chars.trim_of_trim_append (s := word) ?_
    rw [← hsplit, Text.toList_trim, Chars.trim_trim]
  -- the first word of that is the name
  rw [hcommand, Text.words, Text.toList_trim, String.toList_ofList, hsplit, ← hlength,
    List.drop_left, htrim, Chars.words_trimStart] at hwords
  obtain ⟨first, others, hfirst, hname, -⟩ := List.map_eq_cons_iff.mp hwords
  obtain ⟨gap, behind, rfl, hgap, hne, hunbroken, hbehind⟩ := Chars.exists_of_words_eq_cons hfirst
  have hchars : name.toList = first := by rw [← hname, String.toList_ofList]
  rw [← hchars] at hne hunbroken hsplit
  refine ⟨word, gap, behind, ⟨hupper, hgap, ?_, hne, hunbroken, hbehind⟩, hsplit⟩
  rcases gap with - | ⟨c, gap⟩
  · -- the name would stand directly behind `USING`, where the command word ends
    obtain ⟨c, letters, hcons⟩ := List.exists_cons_of_ne_nil hne
    have hspace := hrest c (by rw [← hchars, hcons]; rfl)
    exact absurd (Chars.isBlank_of_isCommandSpace hspace)
      (hunbroken c (hcons ▸ List.mem_cons_self))
  · exact ⟨c, gap, rfl, hrest c rfl⟩

end Instruction

namespace FanOut

open Instruction

variable {sql name : String} {rest word gap behind : List Char}

/-! ### The query -/

/-- The query is what `USING` and the name leave, if it starts with one of two words. -/
theorem body_of_dropUsing (h : dropUsing name.toList sql.toList = .ok rest) :
    body sql name =
      if commandWord (String.ofList rest) = "SELECT" ∨ commandWord (String.ofList rest) = "WITH"
        then .ok (String.ofList rest) else .error .notQuery := by
  rw [body, h]
  simp only [bind, Except.bind, pure, Except.pure, throw, throwThe, MonadExceptOf.throw]
  split
  · next hselect => rw [if_pos (.inl hselect)]
  · next hwith => rw [if_pos (.inr hwith)]
  · next hselect hwith => rw [if_neg (not_or.mpr ⟨hselect, hwith⟩)]

theorem afterName?_append (hbehind : ∀ c, behind.head? = some c → Chars.isBlank c)
    (name : List Char) :
    afterName? name (name ++ behind) =
      if behind = [] then none else some (Chars.trimStart behind) := by
  rw [afterName?, if_pos (List.isPrefixOf_iff_prefix.mpr (List.prefix_append name behind)),
    List.drop_left]
  rcases behind with - | ⟨c, behind⟩
  · rfl
  · dsimp only
    rw [if_pos (hbehind c rfl), if_neg (List.cons_ne_nil c behind)]

/-- What `USING` and the name leave of a text that is cut in this way. -/
theorem dropUsing_of_usingParts (h : UsingParts word gap name.toList behind) :
    dropUsing name.toList (word ++ (gap ++ (name.toList ++ behind))) =
      if behind = [] then .error (.nameMissing name) else .ok (Chars.trimStart behind) := by
  rw [dropUsing, h.trimStart_append, if_pos (h.commandWord_append _), h.drop_append, h.trimStart_gap,
    afterName?_append h.apart, String.ofList_toList]
  by_cases hbehind : behind = []
  · rw [if_pos hbehind, if_pos hbehind]
  · rw [if_neg hbehind, if_neg hbehind]

/-- **A line with `USING` is read twice in the same way.**  A text is such an instruction exactly
if it can be cut into `USING`, blanks, a name, and what stands behind it, whatever the name is and
whatever white space there is, where only the character behind `USING` must be one of those that
end a command word.  Its query, for that name, is what stands behind the name from the first
character that is not blank, if that starts with `SELECT` or `WITH`, and nothing else is; and it
is the name that is missed exactly if there is nothing behind it. -/
theorem body_of_using (text name query : String) :
    (ofText text = .ok (.using name query) ↔
      query = Text.trim text ∧ ∃ word gap behind, UsingParts word gap name.toList behind ∧
        query.toList = word ++ (gap ++ (name.toList ++ behind))) ∧
    ∀ word gap behind, ofText text = .ok (.using name query) →
      UsingParts word gap name.toList behind →
      query.toList = word ++ (gap ++ (name.toList ++ behind)) →
      (∀ found, body query name = .ok found ↔
        ¬ behind.all Chars.isBlank ∧ found.toList = Chars.trimStart behind ∧
          (commandWord found = "SELECT" ∨ commandWord found = "WITH")) ∧
      (∀ missed, body query name = .error (.nameMissing missed) ↔
        behind.all Chars.isBlank ∧ missed = name) ∧
      ∀ rejection, body query name = .error rejection →
        rejection = .nameMissing name ∨ rejection = .notQuery := by
  refine ⟨⟨exists_usingParts, ?_⟩, ?_⟩
  · rintro ⟨rfl, word, gap, behind, hparts, hquery⟩
    exact ofText_of_usingParts hparts hquery
  intro word gap behind htext hparts hquery
  obtain ⟨rfl, -⟩ := exists_usingParts htext
  have hdrop := dropUsing_of_usingParts hparts
  rw [← hquery] at hdrop
  have hblank : behind.all Chars.isBlank ↔ behind = [] := by
    refine ⟨Chars.eq_nil_of_trim_append (s := word ++ (gap ++ name.toList)) ?_, fun h => h ▸ rfl⟩
    rw [List.append_assoc, List.append_assoc, ← hquery, Text.toList_trim, Chars.trim_trim]
  rw [hblank]
  by_cases hnil : behind = []
  · rw [if_pos hnil] at hdrop
    have hbody : body (Text.trim text) name = .error (.nameMissing name) := by rw [body, hdrop]; rfl
    rw [hbody]
    refine ⟨fun found => ⟨nofun, fun h => absurd hnil h.1⟩, fun missed => ?_, fun rejection h => ?_⟩
    · rw [Except.error.injEq, Rejection.nameMissing.injEq, eq_comm]
      exact ⟨fun h => ⟨hnil, h⟩, And.right⟩
    · exact .inl (Except.error.inj h).symm
  · rw [if_neg hnil] at hdrop
    rw [body_of_dropUsing hdrop]
    have hfound (found : String) :
        found.toList = Chars.trimStart behind ↔ String.ofList (Chars.trimStart behind) = found := by
      rw [← String.toList_inj, String.toList_ofList, eq_comm]
    by_cases hword : commandWord (String.ofList (Chars.trimStart behind)) = "SELECT" ∨
        commandWord (String.ofList (Chars.trimStart behind)) = "WITH"
    · rw [if_pos hword]
      refine ⟨fun found => ?_, fun missed => ⟨nofun, fun h => absurd h.1 hnil⟩, nofun⟩
      rw [Except.ok.injEq, hfound]
      exact ⟨fun h => ⟨hnil, h, h ▸ hword⟩, fun h => h.2.1⟩
    · rw [if_neg hword]
      refine ⟨fun found => ⟨nofun, ?_⟩, fun missed => ⟨nofun, fun h => absurd h.1 hnil⟩, ?_⟩
      · rintro ⟨-, hchars, hselect⟩
        rw [← (hfound found).mp hchars] at hselect
        exact absurd hselect hword
      · exact fun rejection h => .inr (Except.error.inj h).symm

/-- The name is a keyword, and the blanks are of several kinds. -/
theorem body_of_using_keyword :
    ofText "\n uSing\tselect\u00a0\u2003with x as (select 1) table x " =
        .ok (.using "select" "uSing\tselect\u00a0\u2003with x as (select 1) table x") ∧
      body "uSing\tselect\u00a0\u2003with x as (select 1) table x" "select" =
        .ok "with x as (select 1) table x" ∧
      ofText "USING with" = .ok (.using "with" "USING with") ∧
      body "USING with" "with" = .error (.nameMissing "with") := by
  have hlong : ofText "\n uSing\tselect\u00a0\u2003with x as (select 1) table x " =
      .ok (.using "select" "uSing\tselect\u00a0\u2003with x as (select 1) table x") := by decide
  have hshort : ofText "USING with" = .ok (.using "with" "USING with") := by decide
  have hparts : UsingParts "uSing".toList "\t".toList "select".toList
      "\u00a0\u2003with x as (select 1) table x".toList :=
    ⟨by decide, by decide, ⟨'\t', [], rfl, rfl⟩, by decide, List.any_eq_false.mp (by decide),
      by rintro c ⟨⟩; decide⟩
  have hmissing : UsingParts "USING".toList " ".toList "with".toList [] :=
    ⟨by decide, by decide, ⟨' ', [], rfl, rfl⟩, by decide, List.any_eq_false.mp (by decide), nofun⟩
  have hlongBody := (body_of_using _ _ _).2 _ _ _ hlong hparts (by decide)
  have hshortBody := (body_of_using _ _ _).2 _ _ _ hshort hmissing (by decide)
  exact ⟨hlong, (hlongBody.1 _).mpr ⟨by decide, by decide, .inr (by decide)⟩,
    hshort, (hshortBody.2.1 _).mpr ⟨by decide, rfl⟩⟩

end FanOut

end SqlNotebook
