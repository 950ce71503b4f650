/-
SqlNotebook/Proofs/Text/Cuts.lean

The pieces of a text as a relation.  A scanner cuts a text at certain characters.  In front
of the first cut it makes none, and behind it the text is cut on from the state there:

    a;'b;c';d     a ; 'b;c' ; d      cut into  a, 'b;c', d

There is one way only to cut a text (`CutInto.eq`), and `scanPieces` finds it
(`cutInto_scanPieces`); so a fact about the pieces of a text is an induction on its cuts.

Most scanners cut in one state only, and are in that state again behind the cut.  Then every
piece is read from that state on, and every piece but the last one leads back to it
(`CutInto.of_home`).
-/
import SqlNotebook.Text.Pieces

namespace SqlNotebook.Chars

variable {σ : Type} (next : σ → Char → σ) (isCut : σ → Char → Bool)

/-- A scanner that starts in the given state makes no cut in a text. -/
def Uncut (state : σ) (s : List Char) : Prop :=
  ∀ before c behind, s = before ++ c :: behind → ¬ isCut (before.foldl next state) c

/-- A scanner that starts in the given state cuts a text into pieces. -/
inductive CutInto : σ → List Char → List (List Char) → Prop
  /-- There is no cut. -/
  | last {state : σ} {s : List Char} (h : Uncut next isCut state s) : CutInto state s [s]
  /-- The first cut is at the character `c`. -/
  | cut {state : σ} {s : List Char} {c : Char} {t : List Char} {pieces : List (List Char)}
      (h : Uncut next isCut state s) (hcut : isCut (s.foldl next state) c)
      (hrest : CutInto (next (s.foldl next state) c) t pieces) :
      CutInto state (s ++ c :: t) (s :: pieces)

variable {next : σ → Char → σ} {isCut : σ → Char → Bool} {state : σ} {s : List Char} {c : Char}
  {pieces : List (List Char)}

/-! ### Texts without a cut -/

theorem uncut_nil : Uncut next isCut state [] := by
  intro before c behind h
  cases before <;> cases h

theorem uncut_cons_iff :
    Uncut next isCut state (c :: s) ↔
      ¬ isCut state c ∧ Uncut next isCut (next state c) s := by
  constructor
  · intro h
    refine ⟨h [] c s rfl, fun before d behind hs => ?_⟩
    exact h (c :: before) d behind (congrArg (c :: ·) hs)
  · rintro ⟨hc, hs⟩ before d behind hsplit
    cases before with
    | nil =>
      cases hsplit
      exact hc
    | cons _ before =>
      cases hsplit
      exact hs before d behind rfl

/-- In front of the first cut, a text goes into the first piece. -/
theorem scanPieces_append_of_uncut (h : Uncut next isCut state s) (t : List Char) :
    ∃ first rest, scanPieces next isCut (s.foldl next state) t = first :: rest ∧
      scanPieces next isCut state (s ++ t) = (s ++ first) :: rest := by
  induction s generalizing state with
  | nil =>
    obtain ⟨first, rest, hpieces⟩ :=
      List.exists_cons_of_ne_nil (scanPieces_ne_nil next isCut state t)
    exact ⟨first, rest, hpieces, hpieces⟩
  | cons c s ih =>
    obtain ⟨hc, hs⟩ := uncut_cons_iff.mp h
    obtain ⟨first, rest, hfirst, happend⟩ := ih hs
    refine ⟨first, rest, hfirst, ?_⟩
    rw [List.cons_append, scanPieces, if_neg hc, happend]
    rfl

theorem length_extendFirst {parts : List (List Char)} (h : parts ≠ []) (c : Char) :
    (extendFirst c parts).length = parts.length := by
  obtain ⟨first, rest, rfl⟩ := List.exists_cons_of_ne_nil h
  rfl

/-- A text has at most one piece more than it has characters. -/
theorem length_scanPieces_le (next : σ → Char → σ) (isCut : σ → Char → Bool) (state : σ)
    (s : List Char) : (scanPieces next isCut state s).length ≤ s.length + 1 := by
  induction s generalizing state with
  | nil => exact Nat.le_refl 1
  | cons c s ih =>
    have hrest := ih (next state c)
    rw [scanPieces]
    split
    · exact Nat.succ_le_succ hrest
    · rw [length_extendFirst (scanPieces_ne_nil next isCut (next state c) s)]
      exact Nat.le_succ_of_le hrest

/-! ### Cuts -/

/-- A character in front of a text that is cut. -/
theorem CutInto.cons (hc : ¬ isCut state c) (h : CutInto next isCut (next state c) s pieces) :
    CutInto next isCut state (c :: s) (extendFirst c pieces) := by
  cases h with
  | last h => exact .last (uncut_cons_iff.mpr ⟨hc, h⟩)
  | cut h hcut hrest => exact .cut (s := c :: _) (uncut_cons_iff.mpr ⟨hc, h⟩) hcut hrest

/-- **A scanner cuts a text into the pieces that it returns.** -/
theorem cutInto_scanPieces (next : σ → Char → σ) (isCut : σ → Char → Bool) (state : σ)
    (s : List Char) : CutInto next isCut state s (scanPieces next isCut state s) := by
  induction s generalizing state with
  | nil => exact .last uncut_nil
  | cons c s ih =>
    rw [scanPieces]
    by_cases hcut : isCut state c
    · rw [if_pos hcut]
      exact .cut (s := []) uncut_nil hcut (ih (next state c))
    · rw [if_neg hcut]
      exact (ih (next state c)).cons hcut

/-- **There is one way only to cut a text.** -/
theorem CutInto.eq (h : CutInto next isCut state s pieces) :
    scanPieces next isCut state s = pieces := by
  induction h with
  | @last state s h =>
    obtain ⟨first, rest, hfirst, happend⟩ := scanPieces_append_of_uncut h []
    obtain ⟨rfl, rfl⟩ := List.cons.inj hfirst
    rwa [List.append_nil] at happend
  | @cut state s c t pieces h hcut hrest ih =>
    obtain ⟨first, rest, hfirst, happend⟩ := scanPieces_append_of_uncut h (c :: t)
    rw [scanPieces, if_pos hcut, ih] at hfirst
    obtain ⟨rfl, rfl⟩ := List.cons.inj hfirst
    rwa [List.append_nil] at happend

theorem CutInto.ne_nil (h : CutInto next isCut state s pieces) : pieces ≠ [] := by
  cases h <;> exact List.cons_ne_nil _ _

/-- Pieces are made of characters of the text. -/
theorem CutInto.mem (h : CutInto next isCut state s pieces) :
    ∀ piece ∈ pieces, ∀ c ∈ piece, c ∈ s := by
  induction h with
  | last h =>
    rw [List.forall_mem_singleton]
    exact fun c hc => hc
  | cut h hcut hrest ih =>
    rw [List.forall_mem_cons]
    refine ⟨fun d hd => List.mem_append_left _ hd, fun piece hpiece d hd => ?_⟩
    exact List.mem_append_right _ (List.mem_cons_of_mem _ (ih piece hpiece d hd))

/-- Where a scanner cuts in one state only, every piece is read from that state on and leads
back to it, but for the last one, which may end anywhere. -/
theorem CutInto.of_home {home : σ} (hhome : ∀ state c, isCut state c → state = home ∧ next state c = home)
    (h : CutInto next isCut home s pieces) :
    (∀ piece ∈ pieces, Uncut next isCut home piece) ∧
      ∀ piece ∈ pieces.dropLast, piece.foldl next home = home := by
  generalize hstate : home = state at h
  induction h with
  | last h =>
    subst hstate
    exact ⟨List.forall_mem_singleton.mpr h, nofun⟩
  | cut h hcut hrest ih =>
    subst hstate
    obtain ⟨hback, hbehind⟩ := hhome _ _ hcut
    obtain ⟨huncut, hclosed⟩ := ih hbehind.symm
    rw [hbehind] at huncut hclosed
    rw [List.dropLast_cons_of_ne_nil hrest.ne_nil, List.forall_mem_cons, List.forall_mem_cons]
    exact ⟨⟨h, huncut⟩, hback, hclosed⟩

/-- Pieces that can be read from one state on, and lead back to it, are cut apart where they
are joined. -/
theorem CutInto.intercalate {home : σ} (hcut : isCut home c) (hback : next home c = home)
    (hne : pieces ≠ []) (huncut : ∀ piece ∈ pieces, Uncut next isCut home piece)
    (hclosed : ∀ piece ∈ pieces.dropLast, piece.foldl next home = home) :
    CutInto next isCut home ([c].intercalate pieces) pieces := by
  induction pieces with
  | nil => exact absurd rfl hne
  | cons piece pieces ih =>
    rw [List.forall_mem_cons] at huncut
    rcases pieces with - | ⟨following, pieces⟩
    · rw [List.intercalate_singleton]
      exact .last huncut.1
    · rw [List.dropLast_cons_of_ne_nil (List.cons_ne_nil _ _), List.forall_mem_cons] at hclosed
      rw [List.intercalate_cons_cons, List.append_assoc, List.singleton_append]
      refine .cut huncut.1 (by rwa [hclosed.1]) ?_
      rw [hclosed.1, hback]
      exact ih (List.cons_ne_nil _ _) huncut.2 hclosed.2

end SqlNotebook.Chars
