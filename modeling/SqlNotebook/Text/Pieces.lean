/-
SqlNotebook/Text/Pieces.lean

Cutting a text into pieces.  A scanner runs over the text and says of each
character, from the state it is in, whether the text is cut there; the
characters at the cuts are dropped and everything else is kept in order.
-/

namespace SqlNotebook.Chars

/-- Puts `c` in front of the first piece. -/
def extendFirst (c : Char) : List (List Char) → List (List Char)
  | [] => [[c]]
  | piece :: rest => (c :: piece) :: rest

/-- The pieces between the cuts that a scanner makes, which starts in the given
state.  There is one piece more than there are cuts, so there always is one. -/
def scanPieces {σ : Type} (next : σ → Char → σ) (isCut : σ → Char → Bool) :
    σ → List Char → List (List Char)
  | _, [] => [[]]
  | state, c :: rest =>
    if isCut state c then [] :: scanPieces next isCut (next state c) rest
    else extendFirst c (scanPieces next isCut (next state c) rest)

/-- The pieces between the characters that satisfy `isCut`. -/
def pieces (isCut : Char → Bool) (s : List Char) : List (List Char) :=
  scanPieces (fun _ _ => ()) (fun _ => isCut) () s

/-- What stands in front of the first `mark`, and what stands behind it. -/
def cutAt? (mark : Char) (s : List Char) : Option (List Char × List Char) :=
  match s.dropWhile (· ≠ mark) with
  | [] => none
  | _ :: behind => some (s.takeWhile (· ≠ mark), behind)

theorem cutAt?_cons (mark c : Char) (s : List Char) :
    cutAt? mark (c :: s) =
      if c = mark then some ([], s) else (cutAt? mark s).map fun cut => (c :: cut.1, cut.2) := by
  by_cases h : c = mark
  · simp [cutAt?, h]
  · simp only [cutAt?, List.dropWhile_cons, List.takeWhile_cons, decide_eq_true (p := c ≠ mark) h,
      if_true, if_neg h]
    cases s.dropWhile (· ≠ mark) <;> rfl

theorem eq_of_cutAt? {mark : Char} {s before behind : List Char}
    (h : cutAt? mark s = some (before, behind)) : s = before ++ mark :: behind := by
  induction s generalizing before with
  | nil => cases h
  | cons c s ih =>
    rw [cutAt?_cons] at h
    split at h
    · rename_i hc
      cases h
      rw [hc, List.nil_append]
    · obtain ⟨⟨inner, _⟩, hcut, hpair⟩ := Option.map_eq_some_iff.1 h
      cases hpair
      rw [ih hcut, List.cons_append]

theorem not_mem_of_cutAt? {mark : Char} {s before behind : List Char}
    (h : cutAt? mark s = some (before, behind)) : mark ∉ before := by
  induction s generalizing before with
  | nil => cases h
  | cons c s ih =>
    rw [cutAt?_cons] at h
    split at h
    · cases h
      exact List.not_mem_nil
    · rename_i hc
      obtain ⟨⟨inner, _⟩, hcut, hpair⟩ := Option.map_eq_some_iff.1 h
      cases hpair
      rw [List.mem_cons, not_or]
      exact ⟨fun hmark => hc hmark.symm, ih hcut⟩

theorem not_mem_of_cutAt?_eq_none {mark : Char} {s : List Char} (h : cutAt? mark s = none) :
    mark ∉ s := by
  induction s with
  | nil => exact List.not_mem_nil
  | cons c s ih =>
    rw [cutAt?_cons] at h
    split at h
    · cases h
    · next hc =>
      rw [List.mem_cons, not_or]
      exact ⟨fun hmark => hc hmark.symm, ih (Option.map_eq_none_iff.mp h)⟩

theorem cutAt?_of_not_mem {mark : Char} {s : List Char} (t : List Char) (h : mark ∉ s) :
    cutAt? mark (s ++ mark :: t) = some (s, t) := by
  induction s with
  | nil => rw [List.nil_append, cutAt?_cons, if_pos rfl]
  | cons c s ih =>
    rw [List.mem_cons, not_or] at h
    rw [List.cons_append, cutAt?_cons, if_neg fun hc => h.1 hc.symm, ih h.2]
    rfl

theorem length_of_cutAt? {mark : Char} {s before behind : List Char}
    (h : cutAt? mark s = some (before, behind)) : behind.length < s.length := by
  have hlength := congrArg List.length (eq_of_cutAt? h)
  simp only [List.length_append, List.length_cons] at hlength
  omega

theorem cutAt?_append (mark : Char) (s t : List Char) :
    cutAt? mark (s ++ t) =
      match cutAt? mark s with
      | some (before, behind) => some (before, behind ++ t)
      | none => (cutAt? mark t).map fun cut => (s ++ cut.1, cut.2) := by
  induction s with
  | nil =>
    show cutAt? mark t = (cutAt? mark t).map fun cut => ([] ++ cut.1, cut.2)
    rcases cutAt? mark t with - | ⟨before, behind⟩ <;> rfl
  | cons c s ih =>
    rw [List.cons_append, cutAt?_cons, cutAt?_cons, ih]
    by_cases h : c = mark
    · rw [if_pos h, if_pos h]
    · rw [if_neg h, if_neg h]
      rcases cutAt? mark s with - | ⟨before, behind⟩
      · rcases cutAt? mark t with - | ⟨before, behind⟩ <;> rfl
      · rfl

@[simp] theorem extendFirst_ne_nil (c : Char) (parts : List (List Char)) :
    extendFirst c parts ≠ [] := by
  cases parts <;> simp [extendFirst]

theorem scanPieces_ne_nil {σ : Type} (next : σ → Char → σ) (isCut : σ → Char → Bool) (state : σ)
    (s : List Char) : scanPieces next isCut state s ≠ [] := by
  cases s with
  | nil => simp [scanPieces]
  | cons c rest =>
    rw [scanPieces]
    split <;> simp

theorem pieces_cons (isCut : Char → Bool) (c : Char) (s : List Char) :
    pieces isCut (c :: s) =
      if isCut c then [] :: pieces isCut s else extendFirst c (pieces isCut s) := rfl

theorem mem_extendFirst {c : Char} {parts : List (List Char)} {piece : List Char}
    (h : piece ∈ extendFirst c parts) :
    piece ∈ parts ∨ piece = [c] ∨ ∃ first ∈ parts, piece = c :: first := by
  rcases parts with - | ⟨first, rest⟩
  · exact .inr (.inl (List.mem_singleton.mp h))
  · rcases List.mem_cons.mp h with h | h
    · exact .inr (.inr ⟨first, List.mem_cons_self, h⟩)
    · exact .inl (List.mem_cons_of_mem _ h)

/-- A piece is made of characters of the text at which it is not cut. -/
theorem of_mem_pieces {isCut : Char → Bool} {s piece : List Char} (h : piece ∈ pieces isCut s) :
    ∀ c ∈ piece, c ∈ s ∧ ¬ isCut c := by
  induction s generalizing piece with
  | nil =>
    rw [List.mem_singleton.mp h]
    exact nofun
  | cons d s ih =>
    have hrest {first : List Char} (hfirst : first ∈ pieces isCut s) :
        ∀ c ∈ first, c ∈ d :: s ∧ ¬ isCut c :=
      fun c hc => ⟨List.mem_cons_of_mem _ (ih hfirst c hc).1, (ih hfirst c hc).2⟩
    rw [pieces_cons] at h
    by_cases hcut : isCut d
    · rw [if_pos hcut, List.mem_cons] at h
      rcases h with rfl | h
      · exact nofun
      · exact hrest h
    · rw [if_neg hcut] at h
      have hfirst : d ∈ d :: s ∧ ¬ isCut d := ⟨List.mem_cons_self, hcut⟩
      rcases mem_extendFirst h with hpiece | rfl | ⟨piece, hpiece, rfl⟩
      · exact hrest hpiece
      · exact List.forall_mem_cons.mpr ⟨hfirst, nofun⟩
      · exact List.forall_mem_cons.mpr ⟨hfirst, hrest hpiece⟩

/-- The pieces with what they were cut at between them are the text. -/
theorem intercalate_pieces (mark : Char) (s : List Char) :
    [mark].intercalate (pieces (· == mark) s) = s := by
  induction s with
  | nil => rfl
  | cons c s ih =>
    rw [pieces_cons]
    rcases hpieces : pieces (· == mark) s with - | ⟨first, rest⟩
    · exact absurd hpieces (scanPieces_ne_nil _ _ _ s)
    · rw [hpieces] at ih
      by_cases hc : c = mark
      · rw [if_pos (beq_iff_eq.mpr hc), List.intercalate_cons_cons, ih, hc]
        rfl
      · rw [if_neg (mt beq_iff_eq.mp hc), extendFirst, List.intercalate_cons_cons_left, ih]

theorem mem_intercalate {mark c : Char} {parts : List (List Char)}
    (h : c ∈ [mark].intercalate parts) : c = mark ∨ ∃ part ∈ parts, c ∈ part := by
  induction parts with
  | nil => cases h
  | cons part parts ih =>
    rcases parts with - | ⟨next, parts⟩
    · rw [List.intercalate_singleton] at h
      exact .inr ⟨part, List.mem_cons_self, h⟩
    · rw [List.intercalate_cons_cons, List.mem_append, List.mem_append, List.mem_singleton] at h
      rcases h with (h | h) | h
      · exact .inr ⟨part, List.mem_cons_self, h⟩
      · exact .inl h
      · refine (ih h).imp_right ?_
        rintro ⟨other, hother, hc⟩
        exact ⟨other, List.mem_cons_of_mem _ hother, hc⟩

end SqlNotebook.Chars
