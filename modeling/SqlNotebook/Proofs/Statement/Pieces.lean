/-
SqlNotebook/Proofs/Statement/Pieces.lean

The statements of a cell as pieces of its text.  Two scans have to keep in step for that.
Comments are looked for line by line, and every line is read from outside of quotes;
delimiters are looked for in all that is left, across the ends of the lines:

    SELECT ';' -- it's      SELECT ';'
    FROM T; VALUES 1         FROM T  ;  VALUES 1

They do where every line but the last one has closed its quotes in front of its comment.
Then no comment is left in the folded text, and none of its pieces has one either
(`not_freeIn_comment`).  There is one way only to divide a text at the delimiters outside of
quotes (`Divides.eq`), and the statements behind one another, with delimiters between them,
are divided into these statements; so cutting them once more changes nothing.
-/
import SqlNotebook.Proofs.Statement.Folding
import SqlNotebook.Proofs.Text.Cuts

namespace SqlNotebook

namespace Chars

theorem mem_of_mem_trim {c : Char} {s : List Char} (h : c ∈ trim s) : c ∈ s := by
  obtain ⟨before, behind, -, -, hs⟩ := exists_trim s
  rw [hs]
  exact List.mem_append_left _ (List.mem_append_right _ h)

end Chars

/-- Whether `mark` stands in a text outside of quotes, for a scan that starts in the given
state. -/
def FreeIn (quote : QuoteState) (mark s : List Char) : Prop :=
  ∃ before behind, s = before ++ (mark ++ behind) ∧ quote.after before = none

/-! ### Marks outside of quotes -/

section FreeIn

variable {quote : QuoteState} {mark s t : List Char}

/-- A mark in a part of a text that is read from outside of quotes. -/
theorem FreeIn.of_part {before : List Char} (h : FreeIn none mark s)
    (hbefore : QuoteState.after none before = none) (behind : List Char) :
    FreeIn none mark (before ++ (s ++ behind)) := by
  obtain ⟨front, rest, rfl, hfront⟩ := h
  refine ⟨before ++ front, rest ++ behind, by simp, ?_⟩
  rw [QuoteState.after_append, hbefore, hfront]

/-- A mark in two texts with a character between them that is not part of it. -/
theorem FreeIn.of_append {c : Char} (hc : c ∉ mark) (hquote : ¬ isQuote c)
    (hs : QuoteState.after none s = none) (h : FreeIn none mark (s ++ c :: t)) :
    FreeIn none mark s ∨ FreeIn none mark t := by
  obtain ⟨before, behind, hsplit, hbefore⟩ := h
  rcases List.append_eq_append_iff.mp hsplit with ⟨inner, rfl, hinner⟩ | ⟨inner, rfl, hinner⟩
  · -- the mark starts behind the first text
    right
    rcases inner with - | ⟨d, inner⟩
    · rcases mark with - | ⟨d, mark⟩
      · exact ⟨[], t, rfl, rfl⟩
      · cases hinner
        exact absurd List.mem_cons_self hc
    · cases hinner
      refine ⟨inner, behind, rfl, ?_⟩
      rwa [QuoteState.after_append, hs, QuoteState.after_cons, QuoteState.next,
        if_neg hquote] at hbefore
  · -- it starts in the first text, and it ends there
    left
    rcases List.append_eq_append_iff.mp hinner with ⟨rest, hmark, -⟩ | ⟨rest, hrest, hmark⟩
    · exact ⟨before, rest, by rw [hmark], hbefore⟩
    · rcases rest with - | ⟨d, rest⟩
      · rw [List.append_nil] at hrest
        exact ⟨before, [], by rw [hrest, List.append_nil], hbefore⟩
      · cases hmark
        exact absurd (hrest ▸ List.mem_append_right _ List.mem_cons_self) hc

end FreeIn

namespace Statement

/-- The pieces of a text between the delimiters that stand outside of quotes. -/
structure Divides (delimiter : Char) (s : List Char) (pieces : List (List Char)) : Prop where
  joined : [delimiter].intercalate pieces = s
  nonempty : pieces ≠ []
  /-- The delimiter behind a piece stands outside of quotes. -/
  closed : ∀ piece ∈ pieces.dropLast, QuoteState.after none piece = none
  /-- No other delimiter does. -/
  whole : ∀ piece ∈ pieces, ¬ FreeIn none [delimiter] piece

variable {delimiter : Char} {quote : QuoteState} {s t piece : List Char}
  {pieces : List (List Char)}

/-! ### Texts without comments -/

/-- A line keeps everything exactly if no comment starts in it. -/
theorem stripLine_eq_self_iff : stripLine quote s = s ↔ ¬ FreeIn quote ['-', '-'] s := by
  constructor
  · rintro hstrip ⟨before, behind, rfl, hbefore⟩
    induction before generalizing quote with
    | nil =>
      obtain rfl : quote = none := hbefore
      cases hstrip
    | cons c before ih =>
      rw [List.cons_append] at hstrip
      unfold stripLine at hstrip
      split at hstrip
      · cases hstrip
      · cases hstrip
      · rename_i hcons
        cases hcons
        exact ih hbefore (List.cons.inj hstrip).2
  · intro hfree
    fun_induction stripLine quote s with
    | case1 => rfl
    | case2 rest => exact absurd ⟨[], rest, rfl, rfl⟩ hfree
    | case3 quote c rest hcomment ih =>
      refine congrArg (c :: ·) (ih ?_)
      rintro ⟨before, behind, rfl, hbefore⟩
      exact hfree ⟨c :: before, behind, rfl, hbefore⟩

/-- Where every line but the last one has closed its quotes in front of its comment, no quoted
region runs over the end of a line. -/
theorem not_spansLines_of_closed {lines : List (List Char)} (hlines : ∀ line ∈ lines, '\n' ∉ line)
    (hclosed : ∀ line ∈ lines.dropLast, QuoteState.after none (stripLine none line) = none) :
    ∀ part ∈ Part.cut (['\n'].intercalate lines), ¬ part.spansLines := by
  -- a region of a line has no newline in it
  have hline {line : List Char} (hnewline : '\n' ∉ line) :
      ∀ part ∈ Part.cut line, ¬ part.spansLines := by
    intro part hpart hspans
    cases part with
    | quoted region =>
      refine hnewline ?_
      rw [← Part.flatMap_source_cut line]
      exact List.mem_flatMap.mpr ⟨_, hpart, List.contains_iff_mem.mp hspans⟩
    | _ => cases hspans
  induction lines with
  | nil => exact hline List.not_mem_nil
  | cons line lines ih =>
    rcases lines with - | ⟨behind, lines⟩
    · rw [List.intercalate_singleton]
      exact hline (hlines line List.mem_cons_self)
    · rw [List.forall_mem_cons] at hlines
      rw [List.dropLast_cons_cons, List.forall_mem_cons] at hclosed
      rw [List.intercalate_cons_cons, List.append_assoc, List.singleton_append]
      rcases Part.cut_line_or hlines.1 (['\n'].intercalate (behind :: lines)) with
        ⟨-, hcut⟩ | ⟨hopen, -⟩
      · rw [hcut, Part.cut_newline]
        intro part hpart
        rcases List.mem_append.mp hpart with hpart | hpart
        · exact hline hlines.1 part hpart
        · rcases List.mem_cons.mp hpart with rfl | hpart
          · exact Bool.false_ne_true
          · exact ih hlines.2 hclosed.2 part hpart
      · exact absurd hclosed.1 hopen

/-- No comment starts in a text whose comments have been removed. -/
theorem not_freeIn_comment (s : List Char) :
    ¬ FreeIn none ['-', '-'] ((withoutComments s).map Chars.unbroken) := by
  have hstays : ∀ part ∈ Part.cut (withoutComments s), part.stays := by
    rw [Part.cut_withoutComments]
    exact fun part hpart => (List.mem_filter.mp hpart).2
  rw [← stripLine_eq_self_iff, stripLine_map_unbroken none nofun, stripLine_eq_beforeComment,
    beforeComment_of_stays hstays]

/-! ### Dividing a text -/

theorem ends_iff (hquote : ¬ isQuote delimiter) (c : Char) :
    ends delimiter quote c ↔ quote = none ∧ c = delimiter := by
  rw [ends, Bool.and_eq_true, Bool.and_eq_true, Option.isNone_iff_eq_none, decide_eq_true_eq]
  constructor
  · rintro ⟨⟨hnone, -⟩, hc⟩
    exact ⟨hnone, hc⟩
  · rintro ⟨hnone, rfl⟩
    exact ⟨⟨hnone, by simpa using hquote⟩, rfl⟩

theorem uncut_iff (hquote : ¬ isQuote delimiter) :
    Chars.Uncut QuoteState.next (ends delimiter) none s ↔ ¬ FreeIn none [delimiter] s := by
  constructor
  · rintro huncut ⟨before, behind, rfl, hbefore⟩
    exact huncut before delimiter behind rfl ((ends_iff hquote delimiter).mpr ⟨hbefore, rfl⟩)
  · rintro hwhole before c behind rfl hends
    obtain ⟨hbefore, rfl⟩ := (ends_iff hquote c).mp hends
    exact hwhole ⟨before, behind, rfl, hbefore⟩

/-- Behind a delimiter that stands outside of quotes, a text is divided by itself. -/
theorem divides_cons_cons_iff {next : List Char} :
    Divides delimiter s (piece :: next :: pieces) ↔
      QuoteState.after none piece = none ∧ ¬ FreeIn none [delimiter] piece ∧
        ∃ t, s = piece ++ delimiter :: t ∧ Divides delimiter t (next :: pieces) := by
  constructor
  · rintro ⟨rfl, -, hclosed, hwhole⟩
    rw [List.dropLast_cons_cons, List.forall_mem_cons] at hclosed
    rw [List.forall_mem_cons] at hwhole
    refine ⟨hclosed.1, hwhole.1, _, ?_, rfl, List.cons_ne_nil _ _, hclosed.2, hwhole.2⟩
    rw [List.intercalate_cons_cons, List.append_assoc, List.singleton_append]
  · rintro ⟨hpiece, hfirst, t, rfl, rfl, -, hclosed, hwhole⟩
    refine ⟨?_, List.cons_ne_nil _ _, ?_, List.forall_mem_cons.mpr ⟨hfirst, hwhole⟩⟩
    · rw [List.intercalate_cons_cons, List.append_assoc, List.singleton_append]
    · rw [List.dropLast_cons_cons, List.forall_mem_cons]
      exact ⟨hpiece, hclosed⟩

theorem divides_singleton_iff :
    Divides delimiter s [piece] ↔ s = piece ∧ ¬ FreeIn none [delimiter] piece := by
  constructor
  · rintro ⟨rfl, -, -, hwhole⟩
    exact ⟨List.intercalate_singleton, hwhole piece List.mem_cons_self⟩
  · rintro ⟨rfl, hwhole⟩
    exact ⟨List.intercalate_singleton, List.cons_ne_nil _ _, nofun,
      List.forall_mem_singleton.mpr hwhole⟩

/-- **The scan for delimiters divides a text**, and there is no other way to divide it. -/
theorem divides_iff (hquote : ¬ isQuote delimiter) :
    Divides delimiter s pieces ↔
      Chars.scanPieces QuoteState.next (ends delimiter) none s = pieces := by
  have hnext : QuoteState.next none delimiter = none := if_neg hquote
  constructor
  · intro h
    refine Chars.CutInto.eq ?_
    induction pieces generalizing s with
    | nil => exact absurd rfl h.nonempty
    | cons piece pieces ih =>
      rcases pieces with - | ⟨behind, pieces⟩
      · obtain ⟨rfl, hwhole⟩ := divides_singleton_iff.mp h
        exact .last ((uncut_iff hquote).mpr hwhole)
      · obtain ⟨hclosed, hwhole, t, rfl, ht⟩ := divides_cons_cons_iff.mp h
        refine .cut ((uncut_iff hquote).mpr hwhole) ((ends_iff hquote _).mpr ⟨hclosed, rfl⟩) ?_
        show Chars.CutInto _ _ ((QuoteState.after none piece).next delimiter) t _
        rw [hclosed, hnext]
        exact ih ht
  · rintro rfl
    have hcut := Chars.cutInto_scanPieces QuoteState.next (ends delimiter) none s
    generalize Chars.scanPieces QuoteState.next (ends delimiter) none s = pieces at hcut
    generalize hstate : (none : QuoteState) = state at hcut
    induction hcut with
    | last h =>
      subst hstate
      exact divides_singleton_iff.mpr ⟨rfl, (uncut_iff hquote).mp h⟩
    | @cut state s c t pieces h hcut hrest ih =>
      subst hstate
      obtain ⟨hclosed, rfl⟩ := (ends_iff hquote c).mp hcut
      rw [hclosed, hnext] at ih
      obtain ⟨behind, pieces, rfl⟩ := List.exists_cons_of_ne_nil hrest.ne_nil
      exact divides_cons_cons_iff.mpr ⟨hclosed, (uncut_iff hquote).mp h, t, rfl, ih rfl⟩

/-- A mark in a piece is a mark in the text, since pieces are read from outside of quotes. -/
theorem Divides.freeIn {mark : List Char} (h : Divides delimiter s pieces)
    (hquote : ¬ isQuote delimiter) (hpiece : piece ∈ pieces) (hfree : FreeIn none mark piece) :
    FreeIn none mark s := by
  induction pieces generalizing s with
  | nil => cases hpiece
  | cons first pieces ih =>
    rcases pieces with - | ⟨next, pieces⟩
    · obtain ⟨rfl, -⟩ := divides_singleton_iff.mp h
      rwa [List.mem_singleton.mp hpiece] at hfree
    · obtain ⟨hclosed, -, t, rfl, ht⟩ := divides_cons_cons_iff.mp h
      rcases List.mem_cons.mp hpiece with rfl | hpiece
      · exact hfree.of_part (QuoteState.after_nil none) _
      · have hdelimiter : QuoteState.after none (first ++ [delimiter]) = none := by
          rw [QuoteState.after_append, hclosed]
          exact if_neg hquote
        have hbehind := (ih ht hpiece).of_part hdelimiter []
        rwa [List.append_nil, List.append_assoc, List.singleton_append] at hbehind

/-- A mark in the text is a mark in one of the pieces, unless the delimiter is part of it. -/
theorem Divides.exists_freeIn {mark : List Char} (h : Divides delimiter s pieces)
    (hquote : ¬ isQuote delimiter) (hmark : delimiter ∉ mark) (hfree : FreeIn none mark s) :
    ∃ piece ∈ pieces, FreeIn none mark piece := by
  induction pieces generalizing s with
  | nil => exact absurd rfl h.nonempty
  | cons first pieces ih =>
    rcases pieces with - | ⟨next, pieces⟩
    · obtain ⟨rfl, -⟩ := divides_singleton_iff.mp h
      exact ⟨s, List.mem_cons_self, hfree⟩
    · obtain ⟨hclosed, -, t, rfl, ht⟩ := divides_cons_cons_iff.mp h
      rcases hfree.of_append hmark hquote hclosed with hfirst | hbehind
      · exact ⟨first, List.mem_cons_self, hfirst⟩
      · obtain ⟨piece, hpiece, hfree⟩ := ih ht hbehind
        exact ⟨piece, List.mem_cons_of_mem _ hpiece, hfree⟩

/-! ### Statements -/

theorem after_trim (h : QuoteState.after none piece = none) :
    QuoteState.after none (Chars.trim piece) = none := by
  obtain ⟨before, behind, hbefore, hbehind, hpiece⟩ := Chars.exists_trim piece
  rw [hpiece, QuoteState.after_append, QuoteState.after_append, after_blanks none nofun hbefore,
    after_blanks _ (isQuote_of_after none nofun _) hbehind] at h
  exact h

/-- A mark between the blanks of a piece is a mark in the piece. -/
theorem freeIn_of_trim {mark : List Char} (h : FreeIn none mark (Chars.trim piece)) :
    FreeIn none mark piece := by
  obtain ⟨before, behind, hbefore, -, hpiece⟩ := Chars.exists_trim piece
  rw [hpiece, List.append_assoc]
  have hblank : QuoteState.after none before = none := after_blanks none nofun hbefore
  exact h.of_part hblank behind

theorem exists_of_mem_ofPieces {statement : String} (h : statement ∈ ofPieces pieces) :
    statement ≠ "" ∧ ∃ piece ∈ pieces, statement.toList = Chars.trim piece := by
  obtain ⟨hmap, hne⟩ := List.mem_filter.mp h
  obtain ⟨piece, hpiece, rfl⟩ := List.mem_map.mp hmap
  exact ⟨of_decide_eq_true hne, piece, hpiece, String.toList_ofList⟩

/-- A statement that is not the last one comes from a piece that is not the last one. -/
theorem exists_of_mem_dropLast_ofPieces {statement : String}
    (h : statement ∈ (ofPieces pieces).dropLast) :
    ∃ piece ∈ pieces.dropLast, statement.toList = Chars.trim piece := by
  rcases List.eq_nil_or_concat pieces with rfl | ⟨pieces, last, rfl⟩
  · cases h
  · rw [List.concat_eq_append] at h ⊢
    rw [List.dropLast_concat]
    exact (exists_of_mem_ofPieces ((dropLast_ofPieces_prefix_append pieces last).subset h)).2

/-- Statements as pieces come to the same statements. -/
theorem ofPieces_map_toList {statements : List String}
    (h : ∀ statement ∈ statements,
      statement ≠ "" ∧ Chars.trim statement.toList = statement.toList) :
    ofPieces (statements.map String.toList) = statements := by
  have hmap : (statements.map String.toList).map (fun piece => String.ofList (Chars.trim piece)) =
      statements := by
    rw [List.map_map]
    refine (List.map_congr_left fun statement hstatement => ?_).trans (List.map_id statements)
    rw [Function.comp_apply, (h statement hstatement).2, String.ofList_toList, id]
  rw [ofPieces, hmap, List.filter_eq_self]
  exact fun statement hstatement => decide_eq_true (h statement hstatement).1

/-- The statements of a text, with delimiters between them, are divided into these statements. -/
theorem Divides.ofPieces (h : Divides delimiter s pieces) (hne : ofPieces pieces ≠ []) :
    Divides delimiter ([delimiter].intercalate ((ofPieces pieces).map String.toList))
      ((ofPieces pieces).map String.toList) := by
  refine ⟨rfl, mt List.map_eq_nil_iff.mp hne, ?_, ?_⟩
  · rw [← List.map_dropLast, List.forall_mem_map]
    intro statement hstatement
    obtain ⟨piece, hpiece, htrim⟩ := exists_of_mem_dropLast_ofPieces hstatement
    rw [htrim]
    exact after_trim (h.closed piece hpiece)
  · rw [List.forall_mem_map]
    intro statement hstatement
    obtain ⟨-, piece, hpiece, htrim⟩ := exists_of_mem_ofPieces hstatement
    rw [htrim]
    exact mt freeIn_of_trim (h.whole piece hpiece)

/-- Cutting statements once more, with delimiters between them, changes nothing. -/
theorem split_join_ofPieces (hquote : ¬ isQuote delimiter) (hblank : ¬ Chars.isBlank delimiter)
    (hminus : delimiter ≠ '-') (h : Divides delimiter s pieces) (hline : '\n' ∉ s)
    (hcomment : ¬ FreeIn none ['-', '-'] s) :
    split (Text.join (String.ofList [delimiter]) (ofPieces pieces)) delimiter = ofPieces pieces := by
  by_cases hne : ofPieces pieces = []
  · have hempty : (stripComments "").toList = [] := by decide
    rw [hne, split_eq_ofChars hblank]
    show ofChars delimiter (stripComments "").toList = []
    rw [hempty]
    rfl
  · have hjoined : (Text.join (String.ofList [delimiter]) (ofPieces pieces)).toList =
        [delimiter].intercalate ((ofPieces pieces).map String.toList) := by
      rw [Text.toList_join, String.toList_ofList]
    have hdivides := h.ofPieces hne
    have hpieces : Chars.scanPieces QuoteState.next (ends delimiter) none s = pieces :=
      (divides_iff hquote).mp h
    have hcuts := Chars.cutInto_scanPieces QuoteState.next (ends delimiter) none s
    rw [hpieces] at hcuts
    have hnewline : '\n' ∉ [delimiter].intercalate ((ofPieces pieces).map String.toList) := by
      intro hmem
      rcases Chars.mem_intercalate hmem with hdelimiter | ⟨part, hpart, hmem⟩
      · rw [← hdelimiter] at hblank
        exact hblank (by decide)
      · obtain ⟨statement, hstatement, rfl⟩ := List.mem_map.mp hpart
        obtain ⟨-, piece, hpiece, htrim⟩ := exists_of_mem_ofPieces hstatement
        rw [htrim] at hmem
        exact hline (hcuts.mem piece hpiece _ (Chars.mem_of_mem_trim hmem))
    have hfree : ¬ FreeIn none ['-', '-']
        ([delimiter].intercalate ((ofPieces pieces).map String.toList)) := by
      intro hfree
      obtain ⟨part, hpart, hpartFree⟩ :=
        hdivides.exists_freeIn hquote (by simpa using hminus) hfree
      obtain ⟨statement, hstatement, rfl⟩ := List.mem_map.mp hpart
      obtain ⟨-, piece, hpiece, htrim⟩ := exists_of_mem_ofPieces hstatement
      rw [htrim] at hpartFree
      exact hcomment (h.freeIn hquote hpiece (freeIn_of_trim hpartFree))
    rw [split_eq_ofChars hblank, toList_stripComments_of_not_mem (by rwa [hjoined]), hjoined,
      stripLine_eq_self_iff.mpr hfree, ofChars, Chars.map_unbroken_of_not_mem hnewline,
      (divides_iff hquote).mp hdivides]
    refine ofPieces_map_toList fun statement hstatement => ?_
    obtain ⟨hstatement, piece, -, htrim⟩ := exists_of_mem_ofPieces hstatement
    exact ⟨hstatement, by rw [htrim, Chars.trim_trim]⟩

/-- **Statements are the pieces of a text**, if every line but the last one has closed its
quotes in front of its comment.  The pieces are those between the delimiters outside of quotes
in the text without its comments, in order and without the blank ones; no statement has a
delimiter or a comment left, and cutting the statements once more changes nothing. -/
theorem split_eq_pieces (text : String) (hdelimiter : delimiter = ';' ∨ delimiter = '@')
    (hclosed : ∀ line ∈ (Chars.lines text.toList).dropLast,
      QuoteState.after none (stripLine none line) = none) :
    (∃ pieces,
        (∀ other,
          Divides delimiter ((withoutComments (joinedLines text.toList)).map Chars.unbroken) other ↔
            other = pieces) ∧
          split text delimiter =
            (pieces.map fun piece => String.ofList (Chars.trim piece)).filter (· ≠ "")) ∧
      (∀ statement ∈ split text delimiter,
        ¬ FreeIn none [delimiter] statement.toList ∧ ¬ FreeIn none ['-', '-'] statement.toList) ∧
      split (Text.join (String.ofList [delimiter]) (split text delimiter)) delimiter =
        split text delimiter := by
  have hquote : ¬ isQuote delimiter := by rcases hdelimiter with rfl | rfl <;> decide
  have hblank : ¬ Chars.isBlank delimiter := by rcases hdelimiter with rfl | rfl <;> decide
  have hminus : delimiter ≠ '-' := by rcases hdelimiter with rfl | rfl <;> decide
  have hlines : ∀ line ∈ Chars.lines text.toList, '\n' ∉ line :=
    fun line => Chars.newline_not_mem_of_mem_lines
  have hspans := not_spansLines_of_closed hlines hclosed
  have hstrip : (stripComments text).toList = withoutComments (joinedLines text.toList) := by
    rw [(stripComments_eq text).1, Part.intercalate_withoutComments hlines hspans]
    rfl
  have hcomment := not_freeIn_comment (joinedLines text.toList)
  have hline := Chars.newline_not_mem_map_unbroken (withoutComments (joinedLines text.toList))
  rw [split_eq_ofChars hblank, hstrip, ofChars]
  generalize (withoutComments (joinedLines text.toList)).map Chars.unbroken = folded
    at hcomment hline ⊢
  have hdivides : Divides delimiter folded _ := (divides_iff hquote).mpr rfl
  refine ⟨⟨_, fun other => ?_, rfl⟩, fun statement hstatement => ?_,
    split_join_ofPieces hquote hblank hminus hdivides hline hcomment⟩
  · rw [divides_iff hquote, eq_comm]
  · obtain ⟨-, piece, hpiece, htrim⟩ := exists_of_mem_ofPieces hstatement
    rw [htrim]
    refine ⟨fun hfree => ?_, fun hfree => ?_⟩
    · exact hdivides.whole piece hpiece (freeIn_of_trim hfree)
    · exact hcomment (hdivides.freeIn hquote hpiece (freeIn_of_trim hfree))

/-- Delimiters and a quote in a comment, a delimiter in quotes, a blank piece, and a quote that
is left open in the last line. -/
def quotedLines : String :=
  "A=';' -- it's; B\nC; ;D='--e;"

theorem split_eq_pieces_quotedLines :
    (∀ line ∈ (Chars.lines quotedLines.toList).dropLast,
        QuoteState.after none (stripLine none line) = none) ∧
      split quotedLines ';' = ["A=';'  C", "D='--e;"] ∧
      split (Text.join ";" (split quotedLines ';')) ';' = split quotedLines ';' := by
  have hclosed : ∀ line ∈ (Chars.lines quotedLines.toList).dropLast,
      QuoteState.after none (stripLine none line) = none := by
    decide +kernel
  exact ⟨hclosed, by decide +kernel, (split_eq_pieces quotedLines (.inl rfl) hclosed).2.2⟩

end Statement

end SqlNotebook
