/-
SqlNotebook/Proofs/Text/Slices.lean

The pieces of a text by the positions at which it is cut:

    a;'b;c';d     cut at 1 and 7     is     a, 'b;c', d

The slices of a text are what stands between the cuts (`slices`), in order and as it is; with
the characters at the cuts between them they are the text again (`weave_slices`).  A scanner
cuts a text into the slices between the positions at which it makes a cut
(`scanPieces_eq_slices`), so a fact about its pieces can be told without its states.
-/
import SqlNotebook.Text.Pieces

namespace SqlNotebook.Chars

/-- What a text holds from the position `start` on, when it is cut at the given positions. -/
def slices (s : List Char) : (start : Nat) → (cuts : List Nat) → List (List Char)
  | start, [] => [s.drop start]
  | start, cut :: cuts => (s.take cut).drop start :: slices s (cut + 1) cuts

/-- Pieces with the given characters between them. -/
def weave : (pieces : List (List Char)) → (marks : List Char) → List Char
  | piece :: pieces, mark :: marks => piece ++ mark :: weave pieces marks
  | pieces, _ => pieces.flatten

/-- Whether a scanner that starts in the given state makes a cut at a position. -/
def cutsAt {σ : Type} (next : σ → Char → σ) (isCut : σ → Char → Bool) (state : σ) (s : List Char)
    (i : Nat) : Bool :=
  s[i]?.any (isCut ((s.take i).foldl next state))

/-- The positions at which a scanner makes a cut, in order. -/
def cutPositions {σ : Type} (next : σ → Char → σ) (isCut : σ → Char → Bool) (state : σ)
    (s : List Char) : List Nat :=
  (List.range s.length).filter (cutsAt next isCut state s)

/-! ### A character in front -/

variable (c : Char) (s : List Char)

theorem slices_cons_succ (start : Nat) (cuts : List Nat) :
    slices (c :: s) (start + 1) (cuts.map (· + 1)) = slices s start cuts := by
  induction cuts generalizing start with
  | nil => rfl
  | cons cut cuts ih =>
    rw [List.map_cons, slices, slices, List.take_succ_cons, List.drop_succ_cons, ih]

theorem slices_cons_zero (cuts : List Nat) :
    slices (c :: s) 0 (cuts.map (· + 1)) = extendFirst c (slices s 0 cuts) := by
  cases cuts with
  | nil => rfl
  | cons cut cuts =>
    rw [List.map_cons, slices, slices, slices_cons_succ, List.take_succ_cons, List.drop_zero,
      List.drop_zero, extendFirst]

theorem slices_ne_nil (start : Nat) (cuts : List Nat) : slices s start cuts ≠ [] := by
  cases cuts <;> exact List.cons_ne_nil _ _

variable {σ : Type} (next : σ → Char → σ) (isCut : σ → Char → Bool) (state : σ)

theorem cutPositions_cons :
    cutPositions next isCut state (c :: s) =
      (if isCut state c then [0] else []) ++
        (cutPositions next isCut (next state c) s).map (· + 1) := by
  -- behind the first character, the scan is that of the rest, one position further on
  have hrest : cutsAt next isCut state (c :: s) ∘ (· + 1) = cutsAt next isCut (next state c) s := rfl
  have hfirst : cutsAt next isCut state (c :: s) 0 = isCut state c := by simp [cutsAt]
  rw [cutPositions, List.length_cons, List.range_succ_eq_map, List.filter_cons, hfirst,
    List.filter_map]
  show (if _ then 0 :: List.map (· + 1) _ else List.map (· + 1) _) = _
  rw [hrest]
  split <;> rfl

/-! ### Pieces -/

/-- **A scanner cuts a text into the slices between the positions of its cuts.** -/
theorem scanPieces_eq_slices :
    scanPieces next isCut state s = slices s 0 (cutPositions next isCut state s) := by
  induction s generalizing state with
  | nil => rfl
  | cons c s ih =>
    rw [scanPieces, cutPositions_cons, ih]
    split
    · rw [List.singleton_append, slices, slices_cons_succ]
      rfl
    · rw [List.nil_append, slices_cons_zero]

theorem weave_extendFirst {pieces : List (List Char)} (h : pieces ≠ []) (marks : List Char) :
    weave (extendFirst c pieces) marks = c :: weave pieces marks := by
  obtain ⟨piece, pieces, rfl⟩ := List.exists_cons_of_ne_nil h
  cases marks <;> rfl

/-- Slices with the characters at the cuts between them are the text. -/
theorem weave_slices :
    weave (slices s 0 (cutPositions next isCut state s))
      ((cutPositions next isCut state s).filterMap (s[·]?)) = s := by
  rw [← scanPieces_eq_slices]
  induction s generalizing state with
  | nil => rfl
  | cons c s ih =>
    have hmarks (cuts : List Nat) :
        (cuts.map (· + 1)).filterMap ((c :: s)[·]?) = cuts.filterMap (s[·]?) := by
      rw [List.filterMap_map]
      rfl
    rw [scanPieces, cutPositions_cons, List.filterMap_append, hmarks]
    split
    · exact congrArg (c :: ·) (ih (next state c))
    · rw [weave_extendFirst c (scanPieces_ne_nil next isCut _ s)]
      exact congrArg (c :: ·) (ih (next state c))

end SqlNotebook.Chars
