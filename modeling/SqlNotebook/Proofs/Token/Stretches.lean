/-
SqlNotebook/Proofs/Token/Stretches.lean

Where a line is cut into tokens, told without the modes of the scan.  A line has stretches in
which blanks are kept, quoted runs and blocks.  A stretch starts with a character that is met
in plain text, a quote or `(`, and goes on to the next character that closes it, or to the end:

    echo 'a (b'  f(it's c)"d          has the stretches  'a (b'  and  (it's c)  and  "d

The blanks outside of all stretches are free, and the tokens of a line are what stands between
them (`split_eq_slices`).

The scan is in plain text exactly behind a text in which every stretch is closed
(`endsPlain_iff`), and this is what makes a blank free (`freeBlank_iff`): behind any other text,
the last stretch that has been opened reaches at least up to the next character.
-/
import Mathlib.Data.List.Induction
import SqlNotebook.Proofs.Text.Slices
import SqlNotebook.Proofs.Token.Slots

namespace SqlNotebook.Token

variable {s inside before stretch behind : List Char} {c close : Char} {mode : Mode} {i : Nat}

/-! ### Stretches -/

/-- What closes the stretch that a character opens in plain text. -/
def closing? (c : Char) : Option Char :=
  if c = '(' then some ')' else if isQuote c then some c else none

/-- A text that starts and ends in plain text: every stretch in it is closed. -/
inductive EndsPlain : List Char → Prop
  | nil : EndsPlain []
  | char {s : List Char} {c : Char} (h : EndsPlain s) (hc : closing? c = none) :
      EndsPlain (s ++ [c])
  | stretch {s inside : List Char} {c close : Char} (h : EndsPlain s) (hc : closing? c = some close)
      (hinside : close ∉ inside) : EndsPlain (s ++ c :: (inside ++ [close]))

/-- A quoted run or a block, between what is in front of it and what is behind it. -/
inductive Stretch : (before stretch behind : List Char) → Prop
  | closed {before inside : List Char} {c close : Char} (hbefore : EndsPlain before)
      (hc : closing? c = some close) (hinside : close ∉ inside) (behind : List Char) :
      Stretch before (c :: (inside ++ [close])) behind
  | unclosed {before inside : List Char} {c close : Char} (hbefore : EndsPlain before)
      (hc : closing? c = some close) (hinside : close ∉ inside) : Stretch before (c :: inside) []

/-- There is a space or a tab at a position of a text, outside of all stretches. -/
structure FreeBlank (s : List Char) (i : Nat) : Prop where
  blank : s[i]? = some ' ' ∨ s[i]? = some '\t'
  outside : ∀ before stretch behind, s = before ++ (stretch ++ behind) →
    Stretch before stretch behind → ¬ (before.length ≤ i ∧ i < before.length + stretch.length)

/-! ### Modes -/

/-- What leads back to plain text. -/
def Mode.closing? : Mode → Option Char
  | .plain => none
  | .quoted quote => some quote
  | .block => some ')'

theorem Mode.eq_plain_iff : mode = .plain ↔ mode.closing? = none := by
  cases mode <;> simp [Mode.closing?]

theorem closing?_next_plain (c : Char) : (Mode.plain.next c).closing? = closing? c := by
  rw [Mode.next, closing?]
  split
  · rfl
  · split <;> rfl

theorem next_of_closing? (h : mode.closing? = some close) (c : Char) :
    mode.next c = if c = close then .plain else mode := by
  cases mode with
  | plain => cases h
  | quoted quote =>
    cases h
    rfl
  | block =>
    cases h
    rfl

/-- The scan stays in a stretch up to what closes it. -/
theorem foldl_next_inside (h : mode.closing? = some close) (hinside : close ∉ inside) :
    inside.foldl Mode.next mode = mode := by
  induction inside with
  | nil => rfl
  | cons c inside ih =>
    rw [List.mem_cons, not_or] at hinside
    rw [List.foldl_cons, next_of_closing? h, if_neg (Ne.symm hinside.1), ih hinside.2]

/-- Inside of a stretch, the scan is not in plain text. -/
theorem foldl_next_opened (hc : closing? c = some close) (hinside : close ∉ inside) :
    ((c :: inside).foldl Mode.next .plain).closing? = some close := by
  have hopened : (Mode.plain.next c).closing? = some close := by rw [closing?_next_plain, hc]
  rw [List.foldl_cons, foldl_next_inside hopened hinside, hopened]

theorem EndsPlain.foldl_next (h : EndsPlain s) : s.foldl Mode.next .plain = .plain := by
  induction h with
  | nil => rfl
  | @char s c h hc ih =>
    rw [List.foldl_append, ih, List.foldl_cons, List.foldl_nil, Mode.eq_plain_iff,
      closing?_next_plain, hc]
  | @stretch s inside c close h hc hinside ih =>
    have hopened := foldl_next_opened hc hinside
    rw [List.foldl_append, ih, ← List.cons_append, List.foldl_append, List.foldl_cons,
      List.foldl_nil, next_of_closing? hopened, if_pos rfl]

/-- Every stretch of a text is closed, or the last one is open. -/
theorem endsPlain_or (s : List Char) :
    EndsPlain s ∨ ∃ before c close inside, s = before ++ c :: inside ∧ EndsPlain before ∧
      closing? c = some close ∧ close ∉ inside := by
  -- the last character either opens a stretch, closes the one that is open, or leaves all as it is
  induction s using List.reverseRecOn with
  | nil => exact .inl .nil
  | append_singleton s d ih =>
    rcases ih with hplain | ⟨before, c, close, inside, rfl, hbefore, hc, hinside⟩
    · rcases hd : closing? d with - | close
      · exact .inl (hplain.char hd)
      · exact .inr ⟨s, d, close, [], rfl, hplain, hd, List.not_mem_nil⟩
    · rw [List.append_assoc, List.cons_append]
      by_cases hclose : d = close
      · subst hclose
        exact .inl (hbefore.stretch hc hinside)
      · refine .inr ⟨before, c, close, inside ++ [d], rfl, hbefore, hc, ?_⟩
        rw [List.mem_append, List.mem_singleton, not_or]
        exact ⟨hinside, Ne.symm hclose⟩

/-- **The scan is in plain text behind exactly those texts whose stretches are closed.** -/
theorem endsPlain_iff : EndsPlain s ↔ s.foldl Mode.next .plain = .plain := by
  refine ⟨EndsPlain.foldl_next, fun h => (endsPlain_or s).resolve_right ?_⟩
  rintro ⟨before, c, close, inside, rfl, hbefore, hc, hinside⟩
  rw [List.foldl_append, hbefore.foldl_next, Mode.eq_plain_iff, foldl_next_opened hc hinside] at h
  cases h

/-! ### Free blanks -/

/-- A stretch starts with what opens it, and what closes it can only be its last character. -/
theorem Stretch.exists_cons (h : Stretch before stretch behind) :
    ∃ c close rest, stretch = c :: rest ∧ EndsPlain before ∧ closing? c = some close ∧
      ∀ k < rest.length, close ∉ rest.take k := by
  cases h with
  | @closed inside c close hbefore hc hinside behind =>
    refine ⟨c, close, _, rfl, hbefore, hc, fun k hk hmem => hinside ?_⟩
    rw [List.length_append, List.length_singleton] at hk
    rw [List.take_append_of_le_length (by omega)] at hmem
    exact List.mem_of_mem_take hmem
  | @unclosed inside c close hbefore hc hinside =>
    exact ⟨c, close, _, rfl, hbefore, hc, fun k _ hmem => hinside (List.mem_of_mem_take hmem)⟩

/-- Behind an open stretch, the next character belongs to it. -/
theorem exists_stretch (hbefore : EndsPlain before) (hc : closing? c = some close)
    (hinside : close ∉ inside) {rest : List Char} (hrest : rest ≠ []) :
    ∃ stretch behind, before ++ (c :: inside ++ rest) = before ++ (stretch ++ behind) ∧
      Stretch before stretch behind ∧ inside.length + 1 < stretch.length := by
  by_cases hclose : close ∈ rest
  · obtain ⟨more, behind, rfl, hmore⟩ := List.eq_append_cons_of_mem hclose
    refine ⟨c :: ((inside ++ more) ++ [close]), behind, by simp, .closed hbefore hc ?_ behind, ?_⟩
    · rw [List.mem_append, not_or]
      exact ⟨hinside, hmore⟩
    · simp only [List.length_cons, List.length_append, List.length_nil]
      omega
  · refine ⟨c :: (inside ++ rest), [], by simp, .unclosed hbefore hc ?_, ?_⟩
    · rw [List.mem_append, not_or]
      exact ⟨hinside, hclose⟩
    · have hlength := List.length_pos_iff.mpr hrest
      simp only [List.length_cons, List.length_append]
      omega

theorem closing?_of_separates (h : Mode.plain.separates c) : closing? c = none := by
  rcases separates_plain_iff.mp h with rfl | rfl <;> rfl

theorem cutsAt_iff :
    Chars.cutsAt Mode.next Mode.separates .plain s i ↔
      (s[i]? = some ' ' ∨ s[i]? = some '\t') ∧ EndsPlain (s.take i) := by
  rw [Chars.cutsAt, Option.any_eq_true, endsPlain_iff]
  constructor
  · rintro ⟨c, hc, hcut⟩
    obtain ⟨hplain, -⟩ := plain_of_separates _ c hcut
    rw [hplain] at hcut
    rw [hc, Option.some_inj, Option.some_inj]
    exact ⟨separates_plain_iff.mp hcut, hplain⟩
  · rintro ⟨hblank, hplain⟩
    rw [hplain]
    rcases hblank with hblank | hblank <;> exact ⟨_, hblank, rfl⟩

/-- **A blank is free exactly if the scan cuts there.** -/
theorem freeBlank_iff :
    FreeBlank s i ↔ Chars.cutsAt Mode.next Mode.separates .plain s i := by
  rw [cutsAt_iff]
  constructor
  · rintro ⟨hblank, houtside⟩
    refine ⟨hblank, (endsPlain_or _).resolve_right ?_⟩
    -- a stretch that is open in front of the blank reaches beyond it
    rintro ⟨before, c, close, inside, htake, hbefore, hc, hinside⟩
    have hlt : i < s.length := by
      rcases hblank with hblank | hblank <;> exact (List.getElem?_eq_some_iff.mp hblank).1
    have hrest : s.drop i ≠ [] := by simpa using hlt
    obtain ⟨stretch, behind, hs, hstretch, hlength⟩ := exists_stretch hbefore hc hinside hrest
    have hposition : i = before.length + (inside.length + 1) := by
      have htaken := congrArg List.length htake
      rw [List.length_take_of_le (Nat.le_of_lt hlt), List.length_append] at htaken
      exact htaken
    rw [← List.append_assoc, ← htake, List.take_append_drop] at hs
    exact houtside before stretch behind hs hstretch ⟨by omega, by omega⟩
  · rintro ⟨hblank, hplain⟩
    refine ⟨hblank, ?_⟩
    rintro before stretch behind rfl hstretch ⟨hle, hlt⟩
    obtain ⟨c, close, rest, rfl, hbefore, hc, hclose⟩ := hstretch.exists_cons
    obtain ⟨k, rfl⟩ := Nat.exists_eq_add_of_le hle
    rcases k with - | k
    · -- the stretch starts with no blank
      have hfirst : (before ++ (c :: rest ++ behind))[before.length + 0]? = some c := by simp
      rw [hfirst, Option.some_inj, Option.some_inj] at hblank
      rw [closing?_of_separates (separates_plain_iff.mpr hblank)] at hc
      cases hc
    · -- inside of the stretch, what closes it has not been met
      have hk : k < rest.length := by
        rw [List.length_cons] at hlt
        omega
      have htake : (before ++ (c :: rest ++ behind)).take (before.length + (k + 1)) =
          before ++ c :: rest.take k := by
        rw [List.take_length_add_append, List.cons_append, List.take_succ_cons,
          List.take_append_of_le_length (Nat.le_of_lt hk)]
      rw [htake, endsPlain_iff, List.foldl_append, hbefore.foldl_next, Mode.eq_plain_iff,
        foldl_next_opened hc (hclose k hk)] at hplain
      cases hplain

instance (s : List Char) (i : Nat) : Decidable (FreeBlank s i) :=
  decidable_of_iff (Chars.cutsAt Mode.next Mode.separates .plain s i) freeBlank_iff.symm

/-- The positions of the free blanks of a text, in order. -/
def freeBlanks (s : List Char) : List Nat :=
  (List.range s.length).filter (FreeBlank s ·)

theorem freeBlanks_eq (s : List Char) :
    freeBlanks s = Chars.cutPositions Mode.next Mode.separates .plain s :=
  List.filter_congr fun _ _ => Bool.eq_iff_iff.mpr (decide_eq_true_iff.trans freeBlank_iff)

/-- **The tokens of a line are what stands between its free blanks.**  Blanks at the front of
the line do not count.  Of the pieces between the free blanks of the rest, which together with
these blanks make up all of it, every one is a token as it is; but an empty one becomes `null`,
and an empty one at the end becomes nothing. -/
theorem split_eq_slices (line : String) :
    let s := Chars.trimStart line.toList
    Chars.weave (Chars.slices s 0 (freeBlanks s)) ((freeBlanks s).filterMap (s[·]?)) = s ∧
      ∃ front last, Chars.slices s 0 (freeBlanks s) = front ++ [last] ∧
        split line =
          (front.map fun piece => if piece = [] then "null" else String.ofList piece) ++
            if last = [] then [] else [String.ofList last] := by
  intro s
  have hslots : slots line.toList = Chars.slices s 0 (freeBlanks s) := by
    rw [freeBlanks_eq, ← Chars.scanPieces_eq_slices]
    rfl
  refine ⟨?_, ?_⟩
  · rw [freeBlanks_eq]
    exact Chars.weave_slices s Mode.next Mode.separates .plain
  · obtain ⟨front, last, hpieces⟩ := (List.eq_nil_or_concat _).resolve_left
      (Chars.slices_ne_nil s 0 (freeBlanks s))
    rw [List.concat_eq_append] at hpieces
    refine ⟨front, last, hpieces, ?_⟩
    rw [split, splitWith, hslots, hpieces, fillSlots_concat]
    simp only [List.isEmpty_iff, id]
    rfl

example : freeBlanks "f(it's c)  x 'y z".toList = [9, 10, 12] := by decide

end SqlNotebook.Token
