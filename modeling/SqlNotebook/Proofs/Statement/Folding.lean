/-
SqlNotebook/Proofs/Statement/Folding.lean

What becomes of the statements of a text whose newlines are folded before its comments
are removed.  A comment ends with its line, so behind the fold the first comment takes
everything that follows:

    folded first:    statements of what stands in front of the first comment
    comments first:  statements of what stands in front of the comment of each line

Where no quoted region runs over the end of a line, the second text is the first one
with what stands behind the first comment (`strippedLines_eq`).  The statements of a
text are those of a longer one, but for the last of them, which may go on there
(`dropLast_ofChars_prefix`).
-/
import Mathlib.Data.List.DropRight
import SqlNotebook.Proofs.Statement.Comments

namespace SqlNotebook

namespace Chars

/-! ### Blanks at the ends -/

variable {s t blanks : List Char}

theorem trimEnd_append_blanks (hblanks : blanks.all isBlank) : trimEnd (s ++ blanks) = trimEnd s := by
  have hreverse : ∀ c ∈ blanks.reverse, isBlank c :=
    fun c hc => List.all_eq_true.mp hblanks c (List.mem_reverse.mp hc)
  rw [trimEnd, List.reverse_append, List.dropWhile_append_of_pos hreverse, trimEnd]

theorem trim_append_blanks (hblanks : blanks.all isBlank) : trim (s ++ blanks) = trim s := by
  rw [trim, trimStart, List.dropWhile_append]
  split
  · rename_i hempty
    have hs : trimStart s = [] := List.isEmpty_iff.mp hempty
    have htrim : blanks.dropWhile isBlank = [] := trimStart_of_all hblanks
    rw [trim, hs, htrim]
  · exact trimEnd_append_blanks hblanks

/-- A text is what is left of it between blanks. -/
theorem exists_trim (s : List Char) :
    ∃ before behind, before.all isBlank ∧ behind.all isBlank ∧ s = before ++ trim s ++ behind := by
  refine ⟨s.takeWhile isBlank, ((trimStart s).reverse.takeWhile isBlank).reverse,
    List.all_takeWhile, ?_, ?_⟩
  · rw [List.all_reverse]
    exact List.all_takeWhile
  · have hend : trim s ++ ((trimStart s).reverse.takeWhile isBlank).reverse = trimStart s := by
      rw [trim, trimEnd, ← List.reverse_append, List.takeWhile_append_dropWhile,
        List.reverse_reverse]
    rw [List.append_assoc, hend, trimStart, List.takeWhile_append_dropWhile]

/-- A text that has been trimmed starts with no blank. -/
theorem not_isBlank_of_head?_trim {s : List Char} {c : Char}
    (h : (trim s).head? = some c) : ¬ isBlank c := by
  obtain ⟨rest, hrest⟩ := List.head?_eq_some_iff.mp h
  obtain ⟨behind, hbehind⟩ : trim s <+: s.dropWhile isBlank := List.rdropWhile_prefix isBlank _
  have hblank := List.head?_dropWhile_not isBlank s
  rw [← hbehind, hrest] at hblank
  exact Bool.eq_false_iff.mp hblank

theorem trim_trim (s : List Char) : trim (trim s) = trim s := by
  have hend : trimEnd (trim s) = trim s := List.rdropWhile_idempotent isBlank _
  rw [trim, trimStart_of_head? fun _ => not_isBlank_of_head?_trim, hend]

/-! ### Pieces of a longer text -/

theorem extendFirst_append (c : Char) (pieces : List (List Char)) (last : List Char) :
    ∃ extended final, ∀ first rest,
      extendFirst c (pieces ++ (last ++ first) :: rest) = extended ++ (final ++ first) :: rest := by
  rcases pieces with - | ⟨piece, pieces⟩
  · exact ⟨[], c :: last, fun _ _ => rfl⟩
  · exact ⟨(c :: piece) :: pieces, last, fun _ _ => rfl⟩

/-- The pieces of the first part of a text are pieces of the text, but for the last one,
which goes on. -/
theorem scanPieces_append {σ : Type} (next : σ → Char → σ) (isCut : σ → Char → Bool) (state : σ)
    (s : List Char) :
    ∃ pieces last, ∀ t, ∃ first rest, scanPieces next isCut (s.foldl next state) t = first :: rest ∧
      scanPieces next isCut state (s ++ t) = pieces ++ (last ++ first) :: rest := by
  induction s generalizing state with
  | nil =>
    refine ⟨[], [], fun t => ?_⟩
    rcases hpieces : scanPieces next isCut state t with - | ⟨first, rest⟩
    · exact absurd hpieces (scanPieces_ne_nil next isCut state t)
    · exact ⟨first, rest, hpieces, hpieces⟩
  | cons c s ih =>
    obtain ⟨pieces, last, happend⟩ := ih (next state c)
    by_cases hcut : isCut state c
    · refine ⟨[] :: pieces, last, fun t => ?_⟩
      obtain ⟨first, rest, hfirst, hrest⟩ := happend t
      refine ⟨first, rest, hfirst, ?_⟩
      rw [List.cons_append, scanPieces, if_pos hcut, hrest, List.cons_append]
    · obtain ⟨extended, final, hextend⟩ := extendFirst_append c pieces last
      refine ⟨extended, final, fun t => ?_⟩
      obtain ⟨first, rest, hfirst, hrest⟩ := happend t
      refine ⟨first, rest, hfirst, ?_⟩
      rw [List.cons_append, scanPieces, if_neg hcut, hrest, hextend]

theorem scanPieces_of_not_cut {σ : Type} {next : σ → Char → σ} {isCut : σ → Char → Bool}
    (hcut : ∀ c ∈ s, ∀ state, ¬ isCut state c) (state : σ) :
    scanPieces next isCut state s = [s] := by
  induction s generalizing state with
  | nil => rfl
  | cons c s ih =>
    rw [List.forall_mem_cons] at hcut
    rw [scanPieces, if_neg (hcut.1 state), ih hcut.2]
    rfl

/-- A text without newlines is one line, if there is something in it. -/
theorem lines_of_not_mem (hs : '\n' ∉ s) : lines s = if s.isEmpty then [] else [s] := by
  have hpieces : pieces (· == '\n') s = [s] := by
    refine scanPieces_of_not_cut (fun c hc _ hnewline => hs ?_) ()
    rwa [beq_iff_eq.mp hnewline] at hc
  rw [lines, hpieces, closeLines]

/-! ### Newlines as spaces -/

/-- A character in a text whose newlines have been folded. -/
def unbroken (c : Char) : Char :=
  if c = '\n' then ' ' else c

theorem unbroken_of_ne {c : Char} (hc : c ≠ '\n') : unbroken c = c :=
  if_neg hc

theorem eq_of_unbroken {c d : Char} (hd : d ≠ ' ') (h : unbroken c = d) : c = d := by
  rcases eq_or_ne c '\n' with rfl | hc
  · exact absurd h.symm hd
  · rwa [unbroken_of_ne hc] at h

/-- What does not tell a newline from a space comes to the same in a folded text. -/
theorem comp_unbroken {α : Type} {f : Char → α} (h : f ' ' = f '\n') : f ∘ unbroken = f := by
  funext c
  rcases eq_or_ne c '\n' with rfl | hc
  · exact h
  · rw [Function.comp_apply, unbroken_of_ne hc]

theorem isBlank_comp_unbroken : isBlank ∘ unbroken = isBlank :=
  comp_unbroken (by decide)

theorem newline_not_mem_map_unbroken (s : List Char) : '\n' ∉ s.map unbroken := by
  intro hnewline
  obtain ⟨c, -, hc⟩ := List.mem_map.mp hnewline
  rcases eq_or_ne c '\n' with rfl | hne
  · exact absurd hc (by decide)
  · rw [unbroken_of_ne hne] at hc
    exact hne hc

theorem map_unbroken_of_not_mem {s : List Char} (h : '\n' ∉ s) : s.map unbroken = s := by
  rw [List.map_congr_left fun c hc => unbroken_of_ne fun hnewline => h (hnewline ▸ hc),
    List.map_id']

theorem all_isBlank_map_unbroken (s : List Char) :
    (s.map unbroken).all isBlank = s.all isBlank := by
  rw [List.all_map, isBlank_comp_unbroken]

theorem trim_map_unbroken (s : List Char) : trim (s.map unbroken) = (trim s).map unbroken := by
  rw [trim, trimEnd, trimStart, List.dropWhile_map, isBlank_comp_unbroken, ← List.map_reverse,
    List.dropWhile_map, isBlank_comp_unbroken, ← List.map_reverse]
  rfl

end Chars

theorem Text.toList_foldNewlines (text : String) :
    (foldNewlines text).toList = text.toList.map Chars.unbroken := by
  rw [foldNewlines, toList_onChars]
  rfl

namespace Statement

/-! ### Statements of a text without comments -/

/-- The pieces that are not blank, as statements. -/
def ofPieces (pieces : List (List Char)) : List String :=
  (pieces.map fun piece => String.ofList (Chars.trim piece)).filter (· ≠ "")

/-- The statements of a text from which no comments are removed. -/
def ofChars (delimiter : Char) (s : List Char) : List String :=
  ofPieces (Chars.scanPieces QuoteState.next (ends delimiter) none (s.map Chars.unbroken))

theorem ofPieces_append (pieces others : List (List Char)) :
    ofPieces (pieces ++ others) = ofPieces pieces ++ ofPieces others := by
  rw [ofPieces, List.map_append, List.filter_append]
  rfl

/-- Only what stands between the blanks of a piece matters. -/
theorem ofPieces_cons_congr {piece other : List Char} (h : Chars.trim piece = Chars.trim other)
    (rest : List (List Char)) : ofPieces (piece :: rest) = ofPieces (other :: rest) := by
  rw [ofPieces, List.map_cons, h]
  rfl

/-- The last piece is one statement or none. -/
theorem dropLast_ofPieces_prefix_append (pieces : List (List Char)) (last : List Char) :
    (ofPieces (pieces ++ [last])).dropLast <+: ofPieces pieces := by
  rw [ofPieces_append]
  by_cases hblank : String.ofList (Chars.trim last) = ""
  · have hnone : ofPieces [last] = [] := List.filter_eq_nil_iff.mpr (by simp [hblank])
    rw [hnone, List.append_nil]
    exact List.dropLast_prefix _
  · have hone : ofPieces [last] = [String.ofList (Chars.trim last)] :=
      List.filter_eq_self.mpr (by simp [hblank])
    exact ⟨[], by rw [List.append_nil, hone, List.dropLast_concat]⟩

theorem ne_quote_of_isBlank {c : Char} (hc : Chars.isBlank c) : ¬ isQuote c := by
  rw [isQuote, Bool.or_eq_true, decide_eq_true_eq, decide_eq_true_eq]
  rintro (rfl | rfl)
  · exact absurd hc (by decide)
  · exact absurd hc (by decide)

variable {delimiter : Char} {s blanks : List Char}

/-- No statement ends at a blank. -/
theorem not_ends_of_isBlank (hdelimiter : ¬ Chars.isBlank delimiter) {c : Char}
    (hc : Chars.isBlank c) (quote : QuoteState) : ¬ ends delimiter quote c := by
  rw [ends, Bool.and_eq_true, decide_eq_true_eq]
  rintro ⟨-, rfl⟩
  exact hdelimiter hc

theorem scanPieces_blanks (hdelimiter : ¬ Chars.isBlank delimiter) (hblanks : blanks.all Chars.isBlank)
    (quote : QuoteState) :
    Chars.scanPieces QuoteState.next (ends delimiter) quote blanks = [blanks] :=
  Chars.scanPieces_of_not_cut
    (fun _ hc => not_ends_of_isBlank hdelimiter (List.all_eq_true.mp hblanks _ hc)) quote

/-- Blanks neither open nor close a quoted region. -/
theorem after_blanks (quote : QuoteState) (hquote : ∀ q, quote = some q → isQuote q)
    (hblanks : blanks.all Chars.isBlank) : quote.after blanks = quote := by
  induction blanks with
  | nil => rfl
  | cons c blanks ih =>
    rw [List.all_cons, Bool.and_eq_true] at hblanks
    have hnext : quote.next c = quote := by
      rcases quote with - | opened
      · exact if_neg (ne_quote_of_isBlank hblanks.1)
      · refine if_neg ?_
        rintro rfl
        exact ne_quote_of_isBlank hblanks.1 (hquote c rfl)
    rw [QuoteState.after_cons, hnext]
    exact ih hblanks.2

/-- The statements of a longer text.  One of them stands on both sides of the seam. -/
theorem ofChars_append (delimiter : Char) (s : List Char) :
    ∃ pieces last, ∀ t, ∃ first rest,
      Chars.scanPieces QuoteState.next (ends delimiter) (QuoteState.after none (s.map Chars.unbroken))
          (t.map Chars.unbroken) = first :: rest ∧
        ofChars delimiter (s ++ t) = ofPieces pieces ++ ofPieces ((last ++ first) :: rest) := by
  obtain ⟨pieces, last, happend⟩ :=
    Chars.scanPieces_append QuoteState.next (ends delimiter) none (s.map Chars.unbroken)
  refine ⟨pieces, last, fun t => ?_⟩
  obtain ⟨first, rest, hfirst, hrest⟩ := happend (t.map Chars.unbroken)
  refine ⟨first, rest, hfirst, ?_⟩
  rw [ofChars, List.map_append, hrest, ofPieces_append]

/-- The statements of the first part of a text are those of the text, but for the last
one, which may go on. -/
theorem dropLast_ofChars_prefix (delimiter : Char) (s t : List Char) :
    (ofChars delimiter s).dropLast <+: ofChars delimiter (s ++ t) := by
  obtain ⟨pieces, last, happend⟩ := ofChars_append delimiter s
  obtain ⟨first, rest, -, hlonger⟩ := happend t
  obtain ⟨_, _, hnil, hs⟩ := happend []
  obtain ⟨rfl, rfl⟩ := List.cons.inj hnil
  rw [List.append_nil, List.append_nil] at hs
  rw [hs, hlonger, ← ofPieces_append]
  exact (dropLast_ofPieces_prefix_append pieces last).trans (List.prefix_append _ _)

theorem ofChars_append_blanks (hdelimiter : ¬ Chars.isBlank delimiter)
    (hblanks : blanks.all Chars.isBlank) :
    ofChars delimiter (s ++ blanks) = ofChars delimiter s := by
  rw [← Chars.all_isBlank_map_unbroken] at hblanks
  obtain ⟨pieces, last, happend⟩ := ofChars_append delimiter s
  obtain ⟨_, _, hcut, hlonger⟩ := happend blanks
  obtain ⟨_, _, hnil, hs⟩ := happend []
  obtain ⟨rfl, rfl⟩ := List.cons.inj hnil
  rw [scanPieces_blanks hdelimiter hblanks] at hcut
  obtain ⟨rfl, rfl⟩ := List.cons.inj hcut
  rw [List.append_nil, List.append_nil] at hs
  rw [hlonger, hs, ofPieces_cons_congr (Chars.trim_append_blanks hblanks)]

theorem ofChars_blanks_append (hdelimiter : ¬ Chars.isBlank delimiter)
    (hblanks : blanks.all Chars.isBlank) :
    ofChars delimiter (blanks ++ s) = ofChars delimiter s := by
  rw [← Chars.all_isBlank_map_unbroken] at hblanks
  obtain ⟨pieces, last, happend⟩ := Chars.scanPieces_append QuoteState.next (ends delimiter) none
    (blanks.map Chars.unbroken)
  obtain ⟨first, rest, hfirst, hlonger⟩ := happend (s.map Chars.unbroken)
  obtain ⟨_, _, hnil, hblank⟩ := happend []
  obtain ⟨rfl, rfl⟩ := List.cons.inj hnil
  rw [List.append_nil, List.append_nil, scanPieces_blanks hdelimiter hblanks,
    ← List.nil_append [blanks.map Chars.unbroken]] at hblank
  obtain ⟨rfl, hlast⟩ := List.append_inj' hblank rfl
  obtain ⟨rfl, -⟩ := List.cons.inj hlast
  have hfirst' : Chars.scanPieces QuoteState.next (ends delimiter) none (s.map Chars.unbroken) =
      first :: rest := by
    rw [← hfirst, ← QuoteState.after, after_blanks none nofun hblanks]
  rw [ofChars, List.map_append, hlonger, List.nil_append, ofChars, hfirst',
    ofPieces_cons_congr (Chars.trim_blanks_append hblanks)]

theorem ofChars_trim (hdelimiter : ¬ Chars.isBlank delimiter) (s : List Char) :
    ofChars delimiter (Chars.trim s) = ofChars delimiter s := by
  obtain ⟨before, behind, hbefore, hbehind, hs⟩ := Chars.exists_trim s
  calc ofChars delimiter (Chars.trim s)
      = ofChars delimiter (before ++ Chars.trim s ++ behind) := by
        rw [ofChars_append_blanks hdelimiter hbehind, ofChars_blanks_append hdelimiter hbefore]
    _ = ofChars delimiter s := by rw [← hs]

/-- Cutting a text into statements removes its comments first. -/
theorem split_eq_ofChars (hdelimiter : ¬ Chars.isBlank delimiter) (text : String) :
    split text delimiter = ofChars delimiter (stripComments text).toList := by
  have hfolded : (Text.trim (Text.foldNewlines (stripComments text))).toList =
      (Chars.trim (stripComments text).toList).map Chars.unbroken := by
    rw [Text.toList_trim, Text.toList_foldNewlines, Chars.trim_map_unbroken]
  rw [← ofChars_trim hdelimiter, ofChars, ← hfolded]
  rfl

end Statement

/-! ### In front of the first comment -/

/-- What stands in front of the first comment of a text. -/
def beforeComment (s : List Char) : List Char :=
  ((Part.cut s).takeWhile Part.stays).flatMap Part.source

/-- What stands behind the first comment of a text, without the comments there. -/
def behindComment (s : List Char) : List Char :=
  (((Part.cut s).dropWhile Part.stays).filter Part.stays).flatMap Part.source

theorem withoutComments_eq (s : List Char) :
    withoutComments s = beforeComment s ++ behindComment s := by
  have hfront : ((Part.cut s).takeWhile Part.stays).filter Part.stays =
      (Part.cut s).takeWhile Part.stays :=
    List.filter_eq_self.mpr (List.all_eq_true.mp List.all_takeWhile)
  rw [withoutComments, beforeComment, behindComment, ← List.flatMap_append, ← hfront,
    ← List.filter_append, List.takeWhile_append_dropWhile]

/-- A text without comments stays as it is. -/
theorem beforeComment_of_stays {s : List Char} (h : ∀ part ∈ Part.cut s, part.stays) :
    beforeComment s = s := by
  rw [beforeComment, List.takeWhile_eq_self_iff.mpr h, Part.flatMap_source_cut]

namespace Statement

/-- A text that is read as one line loses everything from its first comment on. -/
theorem stripLine_eq_beforeComment (s : List Char) : stripLine none s = beforeComment s := by
  rw [beforeComment]
  fun_induction Part.cut s with
  | case1 => rfl
  | case2 rest ih =>
    rw [stripLine]
    rfl
  | case3 c rest hcomment hquote inside behind hcut ih =>
    rw [stripLine, QuoteState.next, if_pos hquote, Part.stripLine_quoted, hcut]
    · show c :: (inside ++ c :: stripLine none behind) =
        (c :: inside ++ [c]) ++ ((Part.cut behind).takeWhile Part.stays).flatMap Part.source
      rw [ih, List.append_assoc]
      rfl
    · exact fun tail _ => hcomment tail
  | case4 c rest hcomment hquote hcut =>
    rw [stripLine, QuoteState.next, if_pos hquote, Part.stripLine_quoted, hcut]
    · exact (List.append_nil (c :: rest)).symm
    · exact fun tail _ => hcomment tail
  | case5 c rest hcomment hquote ih =>
    rw [stripLine, QuoteState.next, if_neg hquote, ih]
    · rfl
    · exact fun tail _ => hcomment tail

/-- Only a quote opens a quoted region. -/
theorem isQuote_of_next {quote : QuoteState} (hquote : ∀ q, quote = some q → isQuote q) (c : Char) :
    ∀ q, quote.next c = some q → isQuote q := by
  intro q hnext
  rcases quote with - | opened
  · rw [QuoteState.next] at hnext
    by_cases hc : isQuote c
    · rw [if_pos hc] at hnext
      exact Option.some.inj hnext ▸ hc
    · rw [if_neg hc] at hnext
      cases hnext
  · rw [QuoteState.next] at hnext
    by_cases hc : c = opened
    · rw [if_pos hc] at hnext
      cases hnext
    · rw [if_neg hc] at hnext
      exact hquote q hnext

theorem isQuote_of_after (quote : QuoteState) (hquote : ∀ q, quote = some q → isQuote q)
    (s : List Char) : ∀ q, quote.after s = some q → isQuote q := by
  induction s generalizing quote with
  | nil => exact hquote
  | cons c s ih => exact ih (quote.next c) (isQuote_of_next hquote c)

/-- Neither a newline nor a space opens or closes a quoted region. -/
theorem next_unbroken {quote : QuoteState} (hquote : ∀ q, quote = some q → isQuote q) (c : Char) :
    quote.next (Chars.unbroken c) = quote.next c := by
  have hblank : quote.next ' ' = quote.next '\n' := by
    rcases quote with - | opened
    · rfl
    · have hopened {blank : Char} (hblank : Chars.isBlank blank) : blank ≠ opened := by
        rintro rfl
        exact ne_quote_of_isBlank hblank (hquote blank rfl)
      rw [QuoteState.next, QuoteState.next, if_neg (hopened (by decide)),
        if_neg (hopened (by decide))]
  exact congrFun (Chars.comp_unbroken hblank) c

theorem stripLine_map_unbroken (quote : QuoteState) (hquote : ∀ q, quote = some q → isQuote q)
    (s : List Char) :
    stripLine quote (s.map Chars.unbroken) = (stripLine quote s).map Chars.unbroken := by
  fun_induction stripLine quote s with
  | case1 => rfl
  | case2 rest => rfl
  | case3 quote c rest hcomment ih =>
    rw [List.map_cons, stripLine, next_unbroken hquote, ih (isQuote_of_next hquote c),
      List.map_cons]
    intro tail hnone hc htail
    obtain ⟨d, behind, rfl, hd, -⟩ := List.map_eq_cons_iff.mp htail
    exact hcomment behind hnone (Chars.eq_of_unbroken (by decide) hc)
      (congrArg (· :: behind) (Chars.eq_of_unbroken (by decide) hd))

/-- Without a minus sign there is no comment. -/
theorem stripLine_of_not_mem {s : List Char} (hs : '-' ∉ s) (quote : QuoteState) :
    stripLine quote s = s := by
  induction s generalizing quote with
  | nil => rfl
  | cons c s ih =>
    rw [List.mem_cons, not_or] at hs
    rw [stripLine, ih hs.2]
    rintro rest - rfl
    exact absurd rfl hs.1

theorem exists_stripLine_append (quote : QuoteState) (s : List Char) {blanks : List Char}
    (hblanks : blanks.all Chars.isBlank) :
    ∃ kept, kept.all Chars.isBlank ∧ stripLine quote (s ++ blanks) = stripLine quote s ++ kept := by
  have hdash : '-' ∉ blanks :=
    fun h => absurd (List.all_eq_true.mp hblanks _ h) (by decide)
  fun_induction stripLine quote s with
  | case1 quote =>
    exact ⟨blanks, hblanks, stripLine_of_not_mem hdash quote⟩
  | case2 rest => exact ⟨[], rfl, rfl⟩
  | case3 quote c rest hcomment ih =>
    obtain ⟨kept, hkept, hrest⟩ := ih
    refine ⟨kept, hkept, ?_⟩
    rw [List.cons_append, stripLine, hrest, List.cons_append]
    intro tail hnone hc htail
    rcases rest with - | ⟨d, rest⟩
    · rw [List.nil_append] at htail
      exact hdash (htail ▸ List.mem_cons_self)
    · obtain ⟨rfl, -⟩ := List.cons.inj htail
      exact hcomment rest hnone hc rfl

theorem stripLine_blanks_append {blanks : List Char} (hblanks : blanks.all Chars.isBlank)
    (s : List Char) : stripLine none (blanks ++ s) = blanks ++ stripLine none s := by
  induction blanks with
  | nil => rfl
  | cons c blanks ih =>
    rw [List.all_cons, Bool.and_eq_true] at hblanks
    rw [List.cons_append, stripLine, QuoteState.next, if_neg (ne_quote_of_isBlank hblanks.1),
      ih hblanks.2, List.cons_append]
    rintro tail - rfl
    exact absurd hblanks.1 (by decide)

/-! ### Folded first -/

variable {delimiter : Char} (hdelimiter : ¬ Chars.isBlank delimiter)

include hdelimiter in
/-- Blanks at the ends of a text do not matter in front of its first comment. -/
theorem ofChars_stripLine_trim (s : List Char) :
    ofChars delimiter (stripLine none (Chars.trim s)) = ofChars delimiter (stripLine none s) := by
  obtain ⟨before, behind, hbefore, hbehind, hs⟩ := Chars.exists_trim s
  obtain ⟨kept, hkept, hstrip⟩ := exists_stripLine_append none (Chars.trim s) hbehind
  calc ofChars delimiter (stripLine none (Chars.trim s))
      = ofChars delimiter (before ++ (stripLine none (Chars.trim s) ++ kept)) := by
        rw [ofChars_blanks_append hdelimiter hbefore, ofChars_append_blanks hdelimiter hkept]
    _ = ofChars delimiter (stripLine none (before ++ Chars.trim s ++ behind)) := by
        rw [List.append_assoc, stripLine_blanks_append hbefore, hstrip]
    _ = ofChars delimiter (stripLine none s) := by rw [← hs]

theorem ofChars_map_unbroken (s : List Char) :
    ofChars delimiter (s.map Chars.unbroken) = ofChars delimiter s := by
  have htwice : Chars.unbroken ∘ Chars.unbroken = Chars.unbroken := Chars.comp_unbroken rfl
  rw [ofChars, List.map_map, htwice, ofChars]

/-- A text without newlines is stripped as one line. -/
theorem toList_stripComments_of_not_mem {text : String} (htext : '\n' ∉ text.toList) :
    (stripComments text).toList = stripLine none text.toList := by
  rw [stripComments, String.toList_ofList, Chars.lines_of_not_mem htext]
  rcases text.toList with - | ⟨c, rest⟩
  · rfl
  · exact List.intercalate_singleton

include hdelimiter in
/-- **A folded text ends at its first comment.** -/
theorem split_folded (text : String) :
    split (Text.trim (Text.foldNewlines text)) delimiter =
      ofChars delimiter (beforeComment text.toList) := by
  have hfolded : (Text.trim (Text.foldNewlines text)).toList =
      (Chars.trim text.toList).map Chars.unbroken := by
    rw [Text.toList_trim, Text.toList_foldNewlines, Chars.trim_map_unbroken]
  have hline : '\n' ∉ (Text.trim (Text.foldNewlines text)).toList := by
    rw [hfolded]
    exact Chars.newline_not_mem_map_unbroken _
  rw [split_eq_ofChars hdelimiter, toList_stripComments_of_not_mem hline, hfolded,
    stripLine_map_unbroken none nofun, ofChars_map_unbroken, ofChars_stripLine_trim hdelimiter,
    stripLine_eq_beforeComment]

/-! ### Comments first -/

/-- The lines of a text, each up to its comment. -/
def strippedLines (s : List Char) : List Char :=
  ['\n'].intercalate ((Chars.lines s).map beforeComment)

include hdelimiter in
/-- **A text ends each of its lines at the comment there.** -/
theorem split_unfolded (text : String) :
    split text delimiter = ofChars delimiter (strippedLines text.toList) := by
  have hlines : stripLine none = beforeComment := funext stripLine_eq_beforeComment
  rw [split_eq_ofChars hdelimiter, stripComments, hlines, String.toList_ofList, strippedLines]

/-- Where no quoted region runs over the end of a line, the lines have what stands behind
the first comment besides what stands in front of it. -/
theorem strippedLines_eq {s : List Char}
    (hspans : ∀ part ∈ Part.cut (joinedLines s), ¬ part.spansLines) :
    strippedLines s = beforeComment (joinedLines s) ++ behindComment (joinedLines s) := by
  have hlines : (Chars.lines s).map beforeComment = (Chars.lines s).map withoutComments := by
    refine List.map_congr_left fun line hline => ?_
    rw [← stripLine_eq_beforeComment, Part.stripLine_eq (Chars.newline_not_mem_of_mem_lines hline)]
  rw [strippedLines, hlines, Part.intercalate_withoutComments
    (fun line => Chars.newline_not_mem_of_mem_lines) hspans, ← withoutComments_eq]
  rfl

include hdelimiter in
/-- A newline at the end does not matter in front of the first comment. -/
theorem ofChars_beforeComment_joinedLines {s : List Char} (hs : '\r' ∉ s) :
    ofChars delimiter (beforeComment (joinedLines s)) = ofChars delimiter (beforeComment s) := by
  rcases joinedLines_eq hs with hjoined | hjoined
  · rw [← hjoined]
  · conv => rhs; rw [hjoined]
    have hnewline : ['\n'].all Chars.isBlank := rfl
    obtain ⟨kept, hkept, hstrip⟩ := exists_stripLine_append none (joinedLines s) hnewline
    rw [← stripLine_eq_beforeComment, ← stripLine_eq_beforeComment, hstrip,
      ofChars_append_blanks hdelimiter hkept]

/-! ### The difference -/

variable {text : String} (hreturn : '\r' ∉ text.toList)
include hdelimiter hreturn

/-- The statements of a folded text are those of the text, but for the last one, which may
go on. -/
theorem dropLast_split_folded_prefix
    (hspans : ∀ part ∈ Part.cut (joinedLines text.toList), ¬ part.spansLines) :
    (split (Text.trim (Text.foldNewlines text)) delimiter).dropLast <+: split text delimiter := by
  rw [split_folded hdelimiter, split_unfolded hdelimiter, strippedLines_eq hspans,
    ← ofChars_beforeComment_joinedLines hdelimiter hreturn]
  exact dropLast_ofChars_prefix delimiter _ _

/-- They are the same if nothing but blanks and comments follows the first comment. -/
theorem split_folded_of_blank
    (hspans : ∀ part ∈ Part.cut (joinedLines text.toList), ¬ part.spansLines)
    (hbehind : (behindComment (joinedLines text.toList)).all Chars.isBlank) :
    split (Text.trim (Text.foldNewlines text)) delimiter = split text delimiter := by
  rw [split_folded hdelimiter, split_unfolded hdelimiter, strippedLines_eq hspans,
    ofChars_append_blanks hdelimiter hbehind, ofChars_beforeComment_joinedLines hdelimiter hreturn]

/-- They are the same if neither the text nor any of its lines has a comment. -/
theorem split_folded_of_stays (htext : ∀ part ∈ Part.cut (joinedLines text.toList), part.stays)
    (hlines : ∀ line ∈ Chars.lines text.toList, ∀ part ∈ Part.cut line, part.stays) :
    split (Text.trim (Text.foldNewlines text)) delimiter = split text delimiter := by
  have hstripped : strippedLines text.toList = joinedLines text.toList := by
    rw [strippedLines, joinedLines, List.map_congr_left fun line hline =>
      beforeComment_of_stays (hlines line hline), List.map_id']
  rw [split_folded hdelimiter, split_unfolded hdelimiter, hstripped,
    ← ofChars_beforeComment_joinedLines hdelimiter hreturn, beforeComment_of_stays htext]

end Statement

end SqlNotebook
