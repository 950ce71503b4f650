/-
SqlNotebook/Proofs/Statement/Comments.lean

SQL texts as sequences of parts, and the removal of comments as an operation on
these.  A text is cut from left to right into quoted regions, comments and single
other characters; a quoted region may run over several lines, a comment ends with
its line:

    A='--' -- x    is    A  =  '--'  ␣  -- x

and nothing is lost in between (`flatMap_source_cut`).  Comments are removed line by
line.  In a line by itself, that leaves the parts that are no comments
(`stripLine_eq`).  The lines together come to the same as the whole text, unless a
quoted region runs over the end of a line: the next line is then read as if it started
outside of quotes.
-/
import Mathlib.Data.List.TakeWhile
import SqlNotebook.Statement

namespace SqlNotebook

/-! ### Parts -/

/-- A part of an SQL text. -/
inductive Part
  /-- A quoted region with its quotes; the second one may be missing at the end. -/
  | quoted (region : List Char)
  /-- Two minus signs and everything behind them in the line. -/
  | comment (text : List Char)
  /-- Any other character. -/
  | plain (c : Char)
deriving DecidableEq, Repr

namespace Part

/-- The characters of a part. -/
def source : Part → List Char
  | quoted region => region
  | comment text => text
  | plain c => [c]

/-- Whether a part stays when comments are removed. -/
def stays : Part → Bool
  | comment _ => false
  | _ => true

/-- The parts of a text. -/
def cut : List Char → List Part
  | [] => []
  | '-' :: '-' :: rest =>
    .comment ('-' :: '-' :: rest.takeWhile (· ≠ '\n')) :: cut (rest.dropWhile (· ≠ '\n'))
  | c :: rest =>
    if isQuote c then
      match _h : Chars.cutAt? c rest with
      | some (inside, behind) => .quoted (c :: inside ++ [c]) :: cut behind
      | none => [.quoted (c :: rest)]
    else .plain c :: cut rest
termination_by s => s.length
decreasing_by
  · exact Nat.lt_succ_of_lt (Nat.lt_succ_of_le (List.dropWhile_sublist _).length_le)
  · exact Nat.lt_succ_of_lt (Chars.length_of_cutAt? ‹_›)
  · exact Nat.lt_succ_self _

/-- Cutting loses nothing. -/
theorem flatMap_source_cut (s : List Char) : (cut s).flatMap source = s := by
  fun_induction cut s with
  | case1 => rfl
  | case2 rest ih => rw [List.flatMap_cons, ih, source]; simp
  | case3 c rest _ _ inside behind hcut ih =>
    rw [List.flatMap_cons, ih, source, Chars.eq_of_cutAt? hcut]
    simp
  | case4 c rest _ _ hcut => simp [source]
  | case5 c rest _ _ ih => rw [List.flatMap_cons, ih, source, List.singleton_append]

end Part

/-- A text without its comments. -/
def withoutComments (s : List Char) : List Char :=
  ((Part.cut s).filter Part.stays).flatMap Part.source

namespace Part

/-! ### One part at a time -/

theorem cut_comment (rest : List Char) :
    cut ('-' :: '-' :: rest) =
      .comment ('-' :: '-' :: rest.takeWhile (· ≠ '\n')) :: cut (rest.dropWhile (· ≠ '\n')) := by
  rw [cut]

theorem cut_quoted {quote : Char} (hquote : isQuote quote) (rest : List Char) :
    cut (quote :: rest) =
      match Chars.cutAt? quote rest with
      | some (inside, behind) => .quoted (quote :: inside ++ [quote]) :: cut behind
      | none => [.quoted (quote :: rest)] := by
  rw [cut, if_pos hquote]
  · rcases hcut : Chars.cutAt? quote rest with - | ⟨inside, behind⟩ <;> rfl
  · rintro - rfl
    cases hquote

theorem cut_plain {c : Char} {rest : List Char} (hquote : ¬ isQuote c)
    (hcomment : c = '-' → rest.head? ≠ some '-') : cut (c :: rest) = .plain c :: cut rest := by
  rw [cut, if_neg hquote]
  rintro behind hc rfl
  exact hcomment hc rfl

theorem cut_newline (rest : List Char) : cut ('\n' :: rest) = .plain '\n' :: cut rest :=
  cut_plain (by decide) nofun

/-! ### Comments removed from a whole text -/

/-- Removing comments brings no minus sign to the front. -/
theorem head?_withoutComments (s : List Char) :
    (withoutComments s).head? = some '-' → s.head? = some '-' := by
  rw [withoutComments]
  fun_cases cut s with
  | case1 => exact id
  | case2 rest => exact fun _ => rfl
  | case3 c rest => exact id
  | case4 c rest => exact id
  | case5 c rest => exact id

/-- **The parts that are left are the parts of the text that is left.** -/
theorem cut_withoutComments (s : List Char) :
    cut (withoutComments s) = (cut s).filter stays := by
  rw [withoutComments]
  fun_induction cut s with
  | case1 => rw [List.filter_nil, List.flatMap_nil, cut]
  | case2 rest ih => exact ih
  | case3 c rest hcomment hquote inside behind hcut ih =>
    show cut ((c :: inside ++ [c]) ++ withoutComments behind) = _ :: _
    rw [List.append_assoc, List.cons_append, List.singleton_append, cut_quoted hquote,
      Chars.cutAt?_of_not_mem _ (Chars.not_mem_of_cutAt? hcut)]
    exact congrArg _ ih
  | case4 c rest hcomment hquote hcut =>
    show cut ((c :: rest) ++ []) = _
    rw [List.append_nil, cut_quoted hquote, hcut]
    rfl
  | case5 c rest hcomment hquote ih =>
    show cut (c :: withoutComments rest) = _ :: _
    rw [cut_plain hquote]
    · exact congrArg _ ih
    · -- a minus sign that stands behind this one now has stood there before
      intro hc hhead
      obtain ⟨behind, hrest⟩ := List.head?_eq_some_iff.mp (head?_withoutComments rest hhead)
      exact hcomment behind hc hrest

/-! ### Comments removed from a line -/

/-- Inside quotes a line is read up to their end. -/
theorem stripLine_quoted (quote : Char) (s : List Char) :
    Statement.stripLine (some quote) s =
      match Chars.cutAt? quote s with
      | some (inside, behind) => inside ++ quote :: Statement.stripLine none behind
      | none => s := by
  induction s with
  | nil => rfl
  | cons c s ih =>
    rw [Statement.stripLine, Chars.cutAt?_cons]
    · by_cases h : c = quote
      · simp [QuoteState.next, h]
      · rw [QuoteState.next, if_neg h, if_neg h, ih]
        rcases Chars.cutAt? quote s with - | ⟨inside, behind⟩ <;> rfl
    · simp

theorem ne_newline_of_mem {line : List Char} (hline : '\n' ∉ line) :
    ∀ c ∈ line, decide (c ≠ '\n') = true := by
  rintro c hc
  rw [decide_eq_true_eq]
  rintro rfl
  exact hline hc

/-- A comment takes the rest of its line. -/
theorem cut_comment_line {line : List Char} (hline : '\n' ∉ line) :
    cut ('-' :: '-' :: line) = [.comment ('-' :: '-' :: line)] := by
  have hne := ne_newline_of_mem hline
  rw [cut_comment, List.takeWhile_eq_self_iff.mpr hne, List.dropWhile_eq_nil_iff.mpr hne, cut]

/-- A line by itself loses its comment. -/
theorem stripLine_eq {line : List Char} (hline : '\n' ∉ line) :
    Statement.stripLine none line = withoutComments line := by
  rw [withoutComments]
  fun_induction cut line with
  | case1 => rfl
  | case2 rest ih =>
    rw [List.mem_cons, List.mem_cons, not_or, not_or] at hline
    rw [← cut_comment, cut_comment_line hline.2.2, Statement.stripLine]
    rfl
  | case3 c rest hcomment hquote inside behind hcut ih =>
    have hbehind : '\n' ∉ behind := by
      rw [Chars.eq_of_cutAt? hcut] at hline
      exact fun hc => hline (by simp [hc])
    rw [Statement.stripLine, QuoteState.next, if_pos hquote, stripLine_quoted, hcut]
    · show c :: (inside ++ c :: Statement.stripLine none behind) =
        (c :: inside ++ [c]) ++ withoutComments behind
      rw [ih hbehind, List.append_assoc]
      rfl
    · exact fun tail _ => hcomment tail
  | case4 c rest hcomment hquote hcut =>
    rw [Statement.stripLine, QuoteState.next, if_pos hquote, stripLine_quoted, hcut]
    · exact (List.append_nil (c :: rest)).symm
    · exact fun tail _ => hcomment tail
  | case5 c rest hcomment hquote ih =>
    rw [Statement.stripLine, QuoteState.next, if_neg hquote, ih]
    · rfl
    · exact fun hc => hline (List.mem_cons_of_mem _ hc)
    · exact fun tail _ => hcomment tail

/-! ### Lines behind one another -/

/-- Whether a part runs over the end of a line. -/
def spansLines : Part → Bool
  | quoted region => region.contains '\n'
  | _ => false

/-- A line is cut by itself, unless it ends inside of a quoted region, which then takes the
end of the line in. -/
theorem cut_line_or {line : List Char} (hline : '\n' ∉ line) (rest : List Char) :
    (QuoteState.after none (Statement.stripLine none line) = none ∧
        cut (line ++ '\n' :: rest) = cut line ++ cut ('\n' :: rest)) ∨
      (QuoteState.after none (Statement.stripLine none line) ≠ none ∧
        ∃ part ∈ cut (line ++ '\n' :: rest), part.spansLines) := by
  fun_induction cut line with
  | case1 => exact .inl ⟨rfl, rfl⟩
  | case2 behind ih =>
    rw [List.mem_cons, List.mem_cons, not_or, not_or] at hline
    have hne := ne_newline_of_mem hline.2.2
    refine .inl ⟨by rw [Statement.stripLine]; rfl, ?_⟩
    rw [← cut_comment, cut_comment_line hline.2.2]
    show cut ('-' :: '-' :: (behind ++ '\n' :: rest)) = _
    rw [cut_comment, List.takeWhile_append_of_pos hne, List.dropWhile_append_of_pos hne]
    simp
  | case3 c behind hcomment hquote inside tail hcut ih =>
    have hcut' : cut (c :: behind ++ '\n' :: rest) =
        .quoted (c :: inside ++ [c]) :: cut (tail ++ '\n' :: rest) := by
      show cut (c :: (behind ++ '\n' :: rest)) = _
      rw [cut_quoted hquote, Chars.cutAt?_append, hcut]
    have htail : '\n' ∉ tail := by
      rw [Chars.eq_of_cutAt? hcut] at hline
      exact fun hc => hline (by simp [hc])
    have hafter : QuoteState.after none (Statement.stripLine none (c :: behind)) =
        QuoteState.after none (Statement.stripLine none tail) := by
      rw [Statement.stripLine, QuoteState.next, if_pos hquote, stripLine_quoted, hcut]
      · exact QuoteState.after_region hquote (Chars.not_mem_of_cutAt? hcut) _
      · exact fun tail _ => hcomment tail
    -- the region ends in the line, so the rest of the line is a line as well
    rw [hafter, hcut']
    rcases ih htail with ⟨hclosed, hrest⟩ | ⟨hopen, part, hpart, hspans⟩
    · exact .inl ⟨hclosed, by rw [hrest]; rfl⟩
    · exact .inr ⟨hopen, part, List.mem_cons_of_mem _ hpart, hspans⟩
  | case4 c behind hcomment hquote hcut =>
    -- the region takes the end of the line in, wherever it ends
    right
    have hc : '\n' ≠ c := by
      rintro rfl
      cases hquote
    constructor
    · rw [Statement.stripLine, QuoteState.next, if_pos hquote, stripLine_quoted, hcut]
      · rw [QuoteState.after_cons, QuoteState.next, if_pos hquote,
          QuoteState.after_inside (Chars.not_mem_of_cutAt?_eq_none hcut)]
        exact Option.some_ne_none c
      · exact fun tail _ => hcomment tail
    · show ∃ part ∈ cut (c :: (behind ++ '\n' :: rest)), _
      rw [cut_quoted hquote, Chars.cutAt?_append, hcut, Chars.cutAt?_cons, if_neg hc]
      rcases Chars.cutAt? c rest with - | ⟨inside, tail⟩
      · exact ⟨_, List.mem_cons_self, by simp [spansLines]⟩
      · exact ⟨_, List.mem_cons_self, by simp [spansLines]⟩
  | case5 c behind hcomment hquote ih =>
    have hcut' : cut (c :: behind ++ '\n' :: rest) =
        .plain c :: cut (behind ++ '\n' :: rest) := by
      refine cut_plain hquote ?_
      rintro rfl hhead
      rcases behind with - | ⟨d, behind⟩
      · cases hhead
      · cases hhead
        exact hcomment behind rfl rfl
    have hafter : QuoteState.after none (Statement.stripLine none (c :: behind)) =
        QuoteState.after none (Statement.stripLine none behind) := by
      rw [Statement.stripLine, QuoteState.next, if_neg hquote, QuoteState.after_cons,
        QuoteState.next, if_neg hquote]
      exact fun tail _ => hcomment tail
    rw [hafter, hcut']
    rcases ih fun hc => hline (List.mem_cons_of_mem _ hc) with
      ⟨hclosed, hrest⟩ | ⟨hopen, part, hpart, hspans⟩
    · exact .inl ⟨hclosed, by rw [hrest]; rfl⟩
    · exact .inr ⟨hopen, part, List.mem_cons_of_mem _ hpart, hspans⟩

/-- Where no part runs over the end of a line, a text is cut line by line. -/
theorem cut_line {line : List Char} (hline : '\n' ∉ line) (rest : List Char)
    (hspans : ∀ part ∈ cut (line ++ '\n' :: rest), ¬ part.spansLines) :
    cut (line ++ '\n' :: rest) = cut line ++ cut ('\n' :: rest) := by
  rcases cut_line_or hline rest with ⟨-, hcut⟩ | ⟨-, part, hpart, hspan⟩
  · exact hcut
  · exact absurd hspan (hspans part hpart)

theorem withoutComments_line {line : List Char} (hline : '\n' ∉ line) (rest : List Char)
    (hspans : ∀ part ∈ cut (line ++ '\n' :: rest), ¬ part.spansLines) :
    withoutComments (line ++ '\n' :: rest) =
      withoutComments line ++ '\n' :: withoutComments rest := by
  rw [withoutComments, cut_line hline rest hspans, cut_newline, List.filter_append,
    List.flatMap_append]
  rfl

/-- Where no part runs over the end of a line, comments can be removed line by line. -/
theorem intercalate_withoutComments {lines : List (List Char)}
    (hlines : ∀ line ∈ lines, '\n' ∉ line)
    (hspans : ∀ part ∈ cut (['\n'].intercalate lines), ¬ part.spansLines) :
    ['\n'].intercalate (lines.map withoutComments) =
      withoutComments (['\n'].intercalate lines) := by
  induction lines with
  | nil =>
    rw [withoutComments, List.intercalate_nil, cut]
    rfl
  | cons line lines ih =>
    rcases lines with - | ⟨next, lines⟩
    · rw [List.map_singleton, List.intercalate_singleton, List.intercalate_singleton]
    · rw [List.forall_mem_cons] at hlines
      have hjoined : ['\n'].intercalate (line :: next :: lines) =
          line ++ '\n' :: ['\n'].intercalate (next :: lines) := by
        rw [List.intercalate_cons_cons, List.append_assoc, List.singleton_append]
      rw [hjoined] at hspans ⊢
      have hrest : ∀ part ∈ cut (['\n'].intercalate (next :: lines)), ¬ part.spansLines := by
        intro part hpart
        refine hspans part ?_
        rw [cut_line hlines.1 _ hspans, cut_newline]
        exact List.mem_append_right _ (List.mem_cons_of_mem _ hpart)
      rw [withoutComments_line hlines.1 _ hspans, ← ih hlines.2 hrest, List.map_cons,
        List.map_cons, List.intercalate_cons_cons, List.append_assoc, List.singleton_append]

end Part

/-! ### Lines of a text -/

/-- The lines of a text behind one another.  Carriage returns in front of newlines and
the newline at the end are gone. -/
def joinedLines (s : List Char) : List Char :=
  ['\n'].intercalate (Chars.lines s)

/-- A text without carriage returns can only lose the newline at its end. -/
theorem joinedLines_eq {s : List Char} (hs : '\r' ∉ s) :
    s = joinedLines s ∨ s = joinedLines s ++ ['\n'] := by
  have hreturn : ∀ piece ∈ Chars.pieces (· == '\n') s, '\r' ∉ piece :=
    fun piece hpiece hc => hs (Chars.of_mem_pieces hpiece _ hc).1
  rw [joinedLines, Chars.lines]
  have hjoined := Chars.intercalate_closeLines hreturn
  rwa [Chars.intercalate_pieces] at hjoined

/-- **Comments are removed line by line.**  What is left of each line is what stands
outside of its comment.  Unless a quoted region runs over the end of a line, the parts
of what is left are the parts of the whole text without its comments, so nothing of a
quoted region is lost and no comment is left.  A text without carriage returns loses
nothing else than a newline at its end. -/
theorem Statement.stripComments_eq (text : String) :
    (stripComments text).toList =
        ['\n'].intercalate ((Chars.lines text.toList).map withoutComments) ∧
      ((∀ part ∈ Part.cut (joinedLines text.toList), ¬ part.spansLines) →
        Part.cut (stripComments text).toList =
          (Part.cut (joinedLines text.toList)).filter Part.stays) ∧
      ('\r' ∉ text.toList →
        text.toList = joinedLines text.toList ∨
          text.toList = joinedLines text.toList ++ ['\n']) := by
  have hlines : (Chars.lines text.toList).map (stripLine none) =
      (Chars.lines text.toList).map withoutComments :=
    List.map_congr_left fun line hline =>
      Part.stripLine_eq (Chars.newline_not_mem_of_mem_lines hline)
  have hstrip : (stripComments text).toList =
      ['\n'].intercalate ((Chars.lines text.toList).map withoutComments) := by
    rw [stripComments, hlines, String.toList_ofList]
  refine ⟨hstrip, fun hspans => ?_, joinedLines_eq⟩
  rw [hstrip, Part.intercalate_withoutComments (fun line => Chars.newline_not_mem_of_mem_lines)
    hspans, Part.cut_withoutComments]
  rfl

theorem Statement.stripComments_eq_marks :
    (∀ part ∈ Part.cut (joinedLines "A='--' -- it's\nB".toList), ¬ part.spansLines) ∧
      Part.cut (stripComments "A='--' -- it's\nB").toList =
        (Part.cut (joinedLines "A='--' -- it's\nB".toList)).filter Part.stays := by
  have hspans : ∀ part ∈ Part.cut (joinedLines "A='--' -- it's\nB".toList),
      ¬ part.spansLines := by
    decide +kernel
  exact ⟨hspans, (stripComments_eq "A='--' -- it's\nB").2.1 hspans⟩

/-- Where a quoted region runs over the end of a line, its second line can lose what
looks like a comment there. -/
theorem Statement.stripComments_cuts_quoted :
    ¬ ∀ text : String, text.toList = joinedLines text.toList →
      (stripComments text).toList = withoutComments text.toList := by
  intro hstrip
  have hquoted := hstrip "'a\n--b'" (by decide +kernel)
  exact absurd hquoted (by decide +kernel)

/-- A comment behind such a region stays. -/
example : Statement.stripComments "'\n' --x" = "'\n' --x" := by
  decide +kernel

end SqlNotebook
