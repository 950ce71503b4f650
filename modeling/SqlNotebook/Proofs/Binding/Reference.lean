/-
SqlNotebook/Proofs/Binding/Reference.lean

Where the references of a text stand.  The scan that binds a text is in some mode behind
everything that it has read (`Mode.after`).  A colon starts a reference if the scan copies
there and is outside of quotes, and the name is what can be read behind the colon:

    reference name  is one of the segments of  s
      ↔  s = before ++ ':' :: (name ++ after), a reference may start behind  before,
         and  name  goes as far as it can                         (`mem_segments_iff`)

In any other mode a colon is an ordinary character: one in quotes, or the one that ends a
name.
-/
import Mathlib.Data.List.TakeWhile
import SqlNotebook.Proofs.Binding.Segment

namespace SqlNotebook

namespace Binding

open Segment

namespace Mode

/-- The mode behind a character. -/
def next : Mode → Char → Mode
  | copying quote, c => if quote = none ∧ c = ':' then naming [] else copying (quote.next c)
  | naming name, c =>
    if isNameChar c then naming (name ++ [c]) else copying (QuoteState.next none c)

/-- The mode behind a text. -/
def after (mode : Mode) (s : List Char) : Mode :=
  s.foldl next mode

theorem next_closing (quote : Char) : next (copying (some quote)) quote = copying none := by
  rw [next, if_neg nofun, QuoteState.next, if_pos rfl]

end Mode

/-! ### References in a text -/

/-- Whether a colon between two parts of a text, the second of which starts with `name`,
starts a reference with this name for a scan in the given mode. -/
structure Starts (mode : Mode) (before name after : List Char) : Prop where
  outside : mode.after before = .copying none
  named : ∀ c ∈ name, isNameChar c
  ended : ∀ c ∈ after.head?, ¬ isNameChar c

/-- Whether a scan in the given mode comes upon a reference. -/
def Finds (mode : Mode) (s name : List Char) : Prop :=
  ∃ before after, s = before ++ ':' :: (name ++ after) ∧ Starts mode before name after

theorem isNameChar_takeWhile (s : List Char) : ∀ c ∈ s.takeWhile isNameChar, isNameChar c :=
  fun _ hc => List.mem_takeWhile_imp hc

theorem not_isNameChar_dropWhile (s : List Char) :
    ∀ c ∈ (s.dropWhile isNameChar).head?, ¬ isNameChar c := by
  intro c hc
  have hhead := List.head?_dropWhile_not isNameChar s
  rw [Option.mem_def.mp hc] at hhead
  simpa using hhead

/-- A name that goes as far as it can. -/
theorem eq_takeWhile_iff {name s : List Char} :
    name = s.takeWhile isNameChar ↔
      ∃ after, s = name ++ after ∧ (∀ c ∈ name, isNameChar c) ∧
        ∀ c ∈ after.head?, ¬ isNameChar c := by
  constructor
  · rintro rfl
    exact ⟨s.dropWhile isNameChar, List.takeWhile_append_dropWhile.symm, isNameChar_takeWhile s,
      not_isNameChar_dropWhile s⟩
  · rintro ⟨after, rfl, hnamed, hended⟩
    rw [List.takeWhile_append_of_pos hnamed]
    rcases after with - | ⟨c, after⟩
    · rw [List.takeWhile_nil, List.append_nil]
    · rw [List.takeWhile_cons_of_neg (hended c rfl), List.append_nil]

/-- A reference starts at the first character or is found behind it. -/
theorem finds_cons (mode : Mode) (c : Char) (s name : List Char) :
    Finds mode (c :: s) name ↔
      (c = ':' ∧ mode = .copying none ∧ name = s.takeWhile isNameChar) ∨
        Finds (mode.next c) s name := by
  constructor
  · rintro ⟨before, after, hs, hstarts⟩
    rcases before with - | ⟨first, before⟩
    · obtain ⟨rfl, rfl⟩ := List.cons.inj hs
      exact .inl ⟨rfl, hstarts.outside,
        eq_takeWhile_iff.mpr ⟨after, rfl, hstarts.named, hstarts.ended⟩⟩
    · obtain ⟨rfl, rfl⟩ := List.cons.inj hs
      exact .inr ⟨before, after, rfl, hstarts.outside, hstarts.named, hstarts.ended⟩
  · rintro (⟨rfl, rfl, hname⟩ | ⟨before, after, rfl, hstarts⟩)
    · obtain ⟨after, rfl, hnamed, hended⟩ := eq_takeWhile_iff.mp hname
      exact ⟨[], after, rfl, rfl, hnamed, hended⟩
    · exact ⟨c :: before, after, rfl, hstarts.outside, hstarts.named, hstarts.ended⟩

theorem finds_nil (mode : Mode) (name : List Char) : ¬ Finds mode [] name := by
  rintro ⟨before, after, hs, -⟩
  simp at hs

/-- In quotes no reference is found. -/
theorem finds_quoted {quote : Char} {inside : List Char} (hinside : quote ∉ inside)
    (behind name : List Char) :
    Finds (.copying (some quote)) (inside ++ behind) name ↔
      Finds (.copying (some quote)) behind name := by
  induction inside with
  | nil => rfl
  | cons c inside ih =>
    rw [List.mem_cons, not_or] at hinside
    have hnext : Mode.next (.copying (some quote)) c = .copying (some quote) := by
      rw [Mode.next, if_neg (by simp), QuoteState.next, if_neg fun hc => hinside.1 hc.symm]
    rw [List.cons_append, finds_cons, hnext, ih hinside.2]
    simp

/-- In a name no reference is found. -/
theorem finds_named {read : List Char} (hread : ∀ c ∈ read, isNameChar c)
    (start behind name : List Char) :
    Finds (.naming start) (read ++ behind) name ↔ Finds (.naming (start ++ read)) behind name := by
  induction read generalizing start with
  | nil => rw [List.nil_append, List.append_nil]
  | cons c read ih =>
    rw [List.forall_mem_cons] at hread
    rw [List.cons_append, finds_cons, Mode.next, if_pos hread.1, ih hread.2, List.append_assoc]
    simp

/-- The modes in which a text is cut: behind a reference the scan has read a name that does
not go on. -/
def Cuts (behindReference : Bool) (mode : Mode) (s : List Char) : Prop :=
  if behindReference then (∃ name, mode = .naming name) ∧ ∀ c ∈ s.head?, ¬ isNameChar c
  else mode = .copying none

/-- Except at a colon outside of quotes and names, a scan goes on as one for quotes. -/
theorem Cuts.finds_cons {behindReference : Bool} {mode : Mode} {c : Char} {s : List Char}
    (hcuts : Cuts behindReference mode (c :: s)) (hcolon : ¬(c = ':' ∧ !behindReference))
    (name : List Char) :
    Finds mode (c :: s) name ↔ Finds (.copying (QuoteState.next none c)) s name := by
  cases behindReference with
  | false =>
    obtain rfl : mode = .copying none := hcuts
    have hc : c ≠ ':' := fun h => hcolon ⟨h, rfl⟩
    rw [Binding.finds_cons, or_iff_right fun h => hc h.1, Mode.next, if_neg fun h => hc h.2]
  | true =>
    obtain ⟨⟨read, rfl⟩, hended⟩ := hcuts
    rw [Binding.finds_cons, or_iff_right (by simp), Mode.next, if_neg (hended c rfl)]

/-- **The references among the segments are those that the scan finds.** -/
theorem reference_mem_cut_iff {behindReference : Bool} {mode : Mode} {s : List Char}
    (hcuts : Cuts behindReference mode s) (name : List Char) :
    .reference name ∈ cut behindReference s ↔ Finds mode s name := by
  fun_induction cut behindReference s generalizing mode with
  | case1 =>
    exact iff_of_false List.not_mem_nil (finds_nil mode name)
  | case2 behindReference c rest hquote inside behind hcut ih =>
    have hcolon := not_colon_of_isQuote hquote behindReference
    rw [hcuts.finds_cons hcolon, QuoteState.next, if_pos hquote, Chars.eq_of_cutAt? hcut,
      finds_quoted (Chars.not_mem_of_cutAt? hcut), finds_cons, or_iff_right (by simp),
      Mode.next_closing, ← ih rfl, List.mem_cons, or_iff_right (by simp)]
  | case3 behindReference c rest hquote hcut =>
    -- the region is not closed, so the rest of the text is inside of it
    have hcolon := not_colon_of_isQuote hquote behindReference
    rw [hcuts.finds_cons hcolon, QuoteState.next, if_pos hquote, ← List.append_nil rest,
      finds_quoted (Chars.not_mem_of_cutAt?_eq_none hcut)]
    exact iff_of_false (by simp) (finds_nil _ name)
  | case4 behindReference c rest hquote hcolon ih =>
    obtain ⟨rfl, hbehind⟩ := hcolon
    obtain rfl : behindReference = false := by simpa using hbehind
    obtain rfl : mode = .copying none := hcuts
    rw [← isNameChar_eq_inName] at ih ⊢
    have hended : Cuts true (.naming (rest.takeWhile isNameChar)) (rest.dropWhile isNameChar) :=
      ⟨⟨_, rfl⟩, not_isNameChar_dropWhile rest⟩
    have hbehind : Finds (.naming []) rest name ↔
        Finds (.naming (rest.takeWhile isNameChar)) (rest.dropWhile isNameChar) name := by
      have hfinds := finds_named (isNameChar_takeWhile rest) [] (rest.dropWhile isNameChar) name
      rwa [List.takeWhile_append_dropWhile] at hfinds
    rw [List.mem_cons, Segment.reference.injEq, ih hended, ← hbehind, finds_cons]
    exact or_congr_left ⟨fun hname => ⟨rfl, rfl, hname⟩, fun h => h.2.2⟩
  | case5 behindReference c rest hquote hcolon ih =>
    rw [hcuts.finds_cons hcolon, QuoteState.next, if_neg hquote, ← ih rfl, List.mem_cons,
      or_iff_right (by simp)]

end Binding

open Binding

/-- **The references of a text are where its scan finds them.** -/
theorem mem_segments_iff (sql : String) (name : List Char) :
    .reference name ∈ segments sql ↔
      ∃ before after, sql.toList = before ++ ':' :: (name ++ after) ∧
        Starts (.copying none) before name after :=
  have hcuts : Cuts false (.copying none) sql.toList := rfl
  reference_mem_cut_iff hcuts name

end SqlNotebook
