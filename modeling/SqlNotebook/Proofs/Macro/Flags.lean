/-
SqlNotebook/Proofs/Macro/Flags.lean

The flags of a macro on their way through the text of its expansion.  The flags that a macro
has asked for are written in front of its output, and whoever runs the text takes them off
again:

    flags -a -grid
    -e  SELECT 1        is expanded to      -a -grid -e  SELECT 1

What is written as a flag and a space is read as this flag, whatever follows
(`splitChars_flag`).  So the flags of the macro are read first, and then what would have been
read of the output alone (`split_flags_append`).
-/
import SqlNotebook.Instruction.Flags
import SqlNotebook.Macro.Table

namespace SqlNotebook

namespace Flags

/-- A text that is written as one flag. -/
structure IsFlag (flag : String) : Prop where
  minus : flag.toList.head? = some '-'
  noSpace : ' ' ∉ flag.toList

/-- A flag with a space behind it is read as this flag. -/
theorem splitChars_flag {flag : String} (hflag : IsFlag flag) (s : List Char) :
    splitChars none (flag.toList ++ ' ' :: s) =
      (flag :: (splitChars none s).1, (splitChars none s).2) := by
  obtain ⟨letters, hletters⟩ := List.head?_eq_some_iff.mp hflag.minus
  have hspace : ' ' ∉ letters := by
    intro hmem
    refine hflag.noSpace ?_
    rw [hletters]
    exact List.mem_cons_of_mem _ hmem
  have hminus : splitChars none ('-' :: (letters ++ ' ' :: s)) =
      splitChars (some ['-']) (letters ++ ' ' :: s) := by
    rw [splitChars, if_neg (by decide), if_pos rfl]
  rw [hletters, List.cons_append, hminus, (splitChars_some hspace ['-'] s).2,
    List.singleton_append, ← hletters, String.ofList_toList]

theorem split_flag_append {flag : String} (hflag : IsFlag flag) (text : String) :
    split (flag ++ (" " ++ text)) = ((split text).1, flag :: (split text).2) := by
  have hchars : (flag ++ (" " ++ text)).toList = flag.toList ++ ' ' :: text.toList := by
    rw [String.toList_append, String.toList_append]
    rfl
  rw [split, hchars, splitChars_flag hflag]
  rfl

/-- **Flags that are written in front of a text are read in front of the flags of the text**,
and what is left of the text is the same. -/
theorem split_flags_append {flags : List String} (hflags : ∀ flag ∈ flags, IsFlag flag)
    (hne : flags ≠ []) (text : String) :
    split (Text.join " " flags ++ (" " ++ text)) =
      ((split text).1, flags ++ (split text).2) := by
  induction flags with
  | nil => exact absurd rfl hne
  | cons flag flags ih =>
    rw [List.forall_mem_cons] at hflags
    rcases flags with - | ⟨next, flags⟩
    · exact split_flag_append hflags.1 text
    · have hjoin : Text.join " " (flag :: next :: flags) ++ (" " ++ text) =
          flag ++ (" " ++ (Text.join " " (next :: flags) ++ (" " ++ text))) := by
        rw [← String.toList_inj]
        simp [List.intercalate_cons_cons]
      rw [hjoin, split_flag_append hflags.1, ih hflags.2 (List.cons_ne_nil _ _)]
      rfl

end Flags

namespace Macro.State

/-- The state in which a run comes to its end, behind the last line or at a `return`. -/
def last? (state : State) : List String → Option State
  | [] => if state.branches.nesting = 0 then some state else none
  | raw :: rest =>
    match state.step raw with
    | .ok (.next state) => state.last? rest
    | .ok (.return state) => some state
    | _ => none

/-- A run that neither fails nor gives up ends with the expansion of its last state. -/
theorem exists_last_of_run {state : State} {lines : List String} {expansion : Expansion}
    (hrun : state.run lines = .ok expansion) (hgoes : expansion.exited = false) :
    ∃ last, state.last? lines = some last ∧ expansion = last.finish := by
  induction lines generalizing state with
  | nil =>
    rw [run] at hrun
    split at hrun
    · rename_i hnesting
      exact ⟨state, if_pos hnesting, (Except.ok.inj hrun).symm⟩
    · cases hrun
  | cons raw rest ih =>
    rw [run] at hrun
    rw [last?]
    rcases hstep : state.step raw with fault | ⟨next | next | next⟩
    · rw [hstep] at hrun
      cases hrun
    · rw [hstep] at hrun
      exact ih hrun
    · rw [hstep] at hrun
      exact ⟨next, rfl, (Except.ok.inj hrun).symm⟩
    · rw [hstep] at hrun
      cases hrun
      cases hgoes

/-- The text of an expansion has its flags in front of the output. -/
theorem split_text_finish {state : State} (hflags : ∀ flag ∈ state.flags, Flags.IsFlag flag) :
    Flags.split state.finish.text =
      ((Flags.split (Text.join "\n" state.output)).1,
        state.flags ++ (Flags.split (Text.join "\n" state.output)).2) := by
  by_cases hnone : state.flags = []
  · have htext : state.finish.text = Text.join "\n" state.output := by
      simp [finish, hnone]
    rw [htext, hnone]
    rfl
  · have htext : state.finish.text =
        Text.join " " state.flags ++ (" " ++ Text.join "\n" state.output) := by
      simp [finish, hnone, String.append_assoc]
    rw [htext, Flags.split_flags_append hflags hnone]

end Macro.State

namespace MacroTable

open Macro

/-- **The flags of a macro survive the way through the text.**  If a macro has run to its end,
and everything that it has asked for is written as a flag, then reading the text gives what
reading the output alone gives, with the flags of the macro in front. -/
theorem split_text_of_expand (table : MacroTable) {instruction : String} {expansion : Expansion}
    (hexpand : table.expand instruction = .ok expansion) (hran : expansion.expanded = true)
    (hgoes : expansion.exited = false) (hflags : ∀ flag ∈ expansion.flags, Flags.IsFlag flag) :
    ∃ called last, table.called? instruction = some called ∧
      State.last? { scope := (Call.ofInstruction instruction).scope } called.body = some last ∧
      expansion.flags = last.flags ∧
      Flags.split expansion.text =
        ((Flags.split (Text.join "\n" last.output)).1,
          last.flags ++ (Flags.split (Text.join "\n" last.output)).2) := by
  rcases hcalled : table.called? instruction with - | called
  · rw [expand, hcalled] at hexpand
    cases hexpand
    cases hran
  · rw [table.expand_of_called hcalled] at hexpand
    rcases hrun : State.run { scope := (Call.ofInstruction instruction).scope } called.body with
      fault | ended
    · rw [hrun] at hexpand
      cases hexpand
    · rw [hrun] at hexpand
      cases hexpand
      obtain ⟨last, hlast, rfl⟩ := State.exists_last_of_run hrun hgoes
      exact ⟨called, last, rfl, hlast, rfl, State.split_text_finish hflags⟩

/-- A macro whose output starts with blanks and a flag of its own. -/
def flaggedTable : MacroTable :=
  MacroTable.add Dictionary.empty ⟨"T", ["flags -a -grid", "{1}  SELECT 1", "return", "flags -q"]⟩

/-- What a call of it is expanded to. -/
def flaggedExpansion : Expansion where
  text := "-a -grid -e  SELECT 1"
  flags := ["-a", "-grid"]
  expanded := true

theorem split_text_of_expand_flagged :
    flaggedTable.expand "t -e" = .ok flaggedExpansion ∧
      (∀ flag ∈ flaggedExpansion.flags, Flags.IsFlag flag) ∧
      Flags.split flaggedExpansion.text = ("SELECT 1", ["-a", "-grid", "-e"]) := by
  have hexpand : flaggedTable.expand "t -e" = .ok flaggedExpansion := rfl
  have hflags : ∀ flag ∈ flaggedExpansion.flags, Flags.IsFlag flag := by
    refine List.forall_mem_cons.mpr ⟨⟨rfl, by decide⟩, List.forall_mem_singleton.mpr ?_⟩
    exact ⟨rfl, by decide⟩
  obtain ⟨called, last, hcalled, hlast, -, hsplit⟩ :=
    split_text_of_expand flaggedTable hexpand rfl rfl hflags
  cases hcalled
  cases hlast
  exact ⟨hexpand, hflags, hsplit⟩

end MacroTable

end SqlNotebook
