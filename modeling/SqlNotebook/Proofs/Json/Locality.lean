/-
SqlNotebook/Proofs/Json/Locality.lean

Reading a document does not look behind it.

What a reader finds at the front of a text it also finds if more text follows, and it leaves that
text untouched; only a numeral must not be followed by a character that would continue it.  More
depth than is needed changes nothing.  Both are one statement, `Carries`, about a reader and the
same reader with more text behind and more depth; it goes through texts, scalars, parts between
commas and brackets, and is put together in `readDocument_carries`.
-/
import SqlNotebook.Json.Reader

namespace SqlNotebook.Json

variable {α : Type}

/-- Whatever `small` reads at the front of a text, `large` reads in the same way where `t` stands
behind that text, and leaves `t` behind the rest. -/
def Carries (t : List Char) (small large : List Char → Option (α × List Char)) : Prop :=
  ∀ s value rest, small s = some (value, rest) → large (s ++ t) = some (value, rest ++ t)

/-- No numeral goes on in a text. -/
def Stops (t : List Char) : Prop :=
  ∀ c ∈ t.head?, ¬ isNumeralChar c

theorem stops_nil : Stops [] :=
  fun _ hc => nomatch hc

theorem stops_cons {c : Char} (h : ¬ isNumeralChar c) (t : List Char) : Stops (c :: t) := by
  rintro d ⟨⟩
  exact h

/-! ### Blanks -/

theorem skipSpace_cons {c : Char} (h : ¬ isSpace c) (s : List Char) :
    skipSpace (c :: s) = c :: s :=
  List.dropWhile_cons_of_neg h

theorem skipSpace_append_of_all {blanks : List Char} (h : ∀ c ∈ blanks, isSpace c)
    (s : List Char) : skipSpace (blanks ++ s) = skipSpace s :=
  List.dropWhile_append_of_pos h

theorem not_isSpace_of_skipSpace {s : List Char} {c : Char} {rest : List Char}
    (h : skipSpace s = c :: rest) : ¬ isSpace c := by
  have hhead := List.head?_dropWhile_not isSpace s
  rw [← skipSpace, h] at hhead
  simpa using hhead

theorem skipSpace_skipSpace (s : List Char) : skipSpace (skipSpace s) = skipSpace s := by
  cases h : skipSpace s with
  | nil => rfl
  | cons c rest => exact skipSpace_cons (not_isSpace_of_skipSpace h) rest

theorem skipSpace_append_of_cons {s : List Char} {c : Char} {rest : List Char}
    (h : skipSpace s = c :: rest) (t : List Char) : skipSpace (s ++ t) = c :: (rest ++ t) := by
  rw [skipSpace, List.dropWhile_append, ← skipSpace, h]
  rfl

theorem not_isSpace_of_isNumeralChar {c : Char} (h : isNumeralChar c) : ¬ isSpace c := by
  intro hspace
  simp only [isSpace, Bool.or_eq_true, decide_eq_true_eq] at hspace
  rcases hspace with ((rfl | rfl) | rfl) | rfl
  all_goals exact absurd h (by decide)

/-! ### Texts -/

theorem readText_carries (t : List Char) : Carries t readText readText := by
  intro s
  induction s using readText.induct_unfolding with
  | case1 => exact fun _ _ h => nomatch h
  | case2 rest =>
    rintro _ _ ⟨⟩
    rw [List.cons_append, readText]
  | case3 | case4 | case6 | case7 | case8 | case10 | case12 => exact fun _ _ h => nomatch h
  | case5 a b c d unit hunit hhigh e f g h rest low hlow hpair code ih =>
    intro _ _ hread
    obtain ⟨⟨read, left⟩, hrest, ⟨⟩⟩ := Option.map_eq_some_iff.mp hread
    simp only [List.cons_append]
    rw [readText.eq_3]
    simp only [hunit, hhigh, hlow, hpair, if_true, ih _ _ hrest, Option.map_some]
    rfl
  | case9 a b c d rest unit hunit hhigh hlow ih =>
    intro _ _ hread
    obtain ⟨⟨read, left⟩, hrest, ⟨⟩⟩ := Option.map_eq_some_iff.mp hread
    simp only [List.cons_append]
    rw [readText.eq_3]
    simp only [hunit, hhigh, hlow, Bool.false_eq_true, if_false, ih _ _ hrest, Option.map_some]
  | case11 c rest hcode d hescaped ih =>
    intro _ _ hread
    obtain ⟨⟨read, left⟩, hrest, ⟨⟩⟩ := Option.map_eq_some_iff.mp hread
    simp only [List.cons_append]
    -- the letter of a code point is no letter of its own, however many digits follow
    rw [readText.eq_4 _ _ fun _ _ _ _ _ hu _ => by rw [hu] at hescaped; cases hescaped]
    simp only [hescaped, ih _ _ hrest, Option.map_some]
  | case13 c rest hquote _ _ hplain ih =>
    intro _ _ hread
    obtain ⟨⟨read, left⟩, hrest, ⟨⟩⟩ := Option.map_eq_some_iff.mp hread
    have hbackslash : c ≠ '\\' := by
      rintro rfl
      exact hplain (by decide)
    simp only [List.cons_append]
    rw [readText.eq_5 _ _ hquote (fun _ _ _ _ _ h _ => hbackslash h) fun _ _ h _ => hbackslash h,
      if_neg hplain, ih _ _ hrest, Option.map_some]

/-! ### Words and numbers -/

theorem readScalar_of_isNumeralChar {c : Char} (h : isNumeralChar c) (s : List Char) :
    readScalar (c :: s) =
      (JsonNumber.ofChars? ((c :: s).takeWhile isNumeralChar)).map fun value =>
        (.number value, (c :: s).dropWhile isNumeralChar) := by
  refine readScalar.eq_5 _ ?_ ?_ ?_ ?_
  all_goals
    rintro _ hs
    rw [(List.cons.inj hs).1] at h
    exact absurd h (by decide)

/-- What is neither a word nor a text nor a numeral is not read. -/
theorem readScalar_eq_none {c : Char} (h : ¬ isNumeralChar c)
    (hstart : c ≠ 'n' ∧ c ≠ 't' ∧ c ≠ 'f' ∧ c ≠ '"') (s : List Char) :
    readScalar (c :: s) = none := by
  rw [readScalar.eq_5, List.takeWhile_cons_of_neg h]
  · rfl
  · exact fun _ hs => hstart.1 (List.cons.inj hs).1
  · exact fun _ hs => hstart.2.1 (List.cons.inj hs).1
  · exact fun _ hs => hstart.2.2.1 (List.cons.inj hs).1
  · exact fun _ hs => hstart.2.2.2 (List.cons.inj hs).1

theorem Stops.takeWhile_eq_nil {t : List Char} (h : Stops t) : t.takeWhile isNumeralChar = [] := by
  cases t with
  | nil => rfl
  | cons c t => exact List.takeWhile_cons_of_neg (h c rfl)

theorem Stops.dropWhile_eq {t : List Char} (h : Stops t) : t.dropWhile isNumeralChar = t := by
  cases t with
  | nil => rfl
  | cons c t => exact List.dropWhile_cons_of_neg (h c rfl)

theorem takeWhile_append_of_stops (s : List Char) {t : List Char} (h : Stops t) :
    (s ++ t).takeWhile isNumeralChar = s.takeWhile isNumeralChar := by
  rw [List.takeWhile_append, h.takeWhile_eq_nil, List.append_nil]
  split
  · next hall => exact ((List.takeWhile_prefix _).eq_of_length hall).symm
  · rfl

theorem dropWhile_append_of_stops (s : List Char) {t : List Char} (h : Stops t) :
    (s ++ t).dropWhile isNumeralChar = s.dropWhile isNumeralChar ++ t := by
  rw [List.dropWhile_append, h.dropWhile_eq]
  split
  · next hnil => rw [List.isEmpty_iff.mp hnil, List.nil_append]
  · rfl

theorem readScalar_carries {t : List Char} (h : Stops t) : Carries t readScalar readScalar := by
  intro s value rest hread
  by_cases hnumeral : ∃ c ∈ s.head?, isNumeralChar c
  · obtain ⟨c, hhead, hc⟩ := hnumeral
    obtain ⟨s, rfl⟩ := List.head?_eq_some_iff.mp hhead
    rw [readScalar_of_isNumeralChar hc] at hread
    obtain ⟨number, hnumber, ⟨⟩⟩ := Option.map_eq_some_iff.mp hread
    rw [List.cons_append, readScalar_of_isNumeralChar hc, ← List.cons_append,
      takeWhile_append_of_stops _ h, dropWhile_append_of_stops _ h, hnumber, Option.map_some]
  · have htake : s.takeWhile isNumeralChar = [] := by
      cases s with
      | nil => rfl
      | cons c s => exact List.takeWhile_cons_of_neg fun hc => hnumeral ⟨c, rfl, hc⟩
    revert hread
    fun_cases readScalar s with
    | case1 | case2 | case3 =>
      rintro ⟨⟩
      rfl
    | case4 s =>
      intro hread
      obtain ⟨⟨read, left⟩, htext, ⟨⟩⟩ := Option.map_eq_some_iff.mp hread
      show (readText (s ++ t)).map _ = _
      rw [readText_carries t _ _ _ htext, Option.map_some]
    | case5 =>
      rw [htake]
      exact fun hread => nomatch hread

/-! ### Parts between brackets -/

section Parts

variable {t : List Char} {small large : List Char → Option (α × List Char)}

/-- Parts are read one by one: a part is followed by the closing bracket, and is the last one, or
by a comma and the other parts. -/
theorem readParts_eq_some_iff {part : List Char → Option (α × List Char)} {closing : Char}
    (hclosing : closing ≠ ',') {limit : Nat} {s rest : List Char} {values : List α} :
    readParts part closing (limit + 1) s = some (values, rest) ↔
      ∃ value behind, part (skipSpace s) = some (value, behind) ∧
        (skipSpace behind = closing :: rest ∧ values = [value] ∨
          ∃ others more, skipSpace behind = ',' :: others ∧
            readParts part closing limit others = some (more, rest) ∧ values = value :: more) := by
  constructor
  · intro hread
    rw [readParts] at hread
    cases hpart : part (skipSpace s) with
    | none =>
      rw [hpart] at hread
      cases hread
    | some found =>
      refine ⟨found.1, found.2, rfl, ?_⟩
      rw [hpart] at hread
      dsimp only at hread
      cases hbehind : skipSpace found.2 with
      | nil =>
        rw [hbehind] at hread
        cases hread
      | cons c others =>
        rw [hbehind] at hread
        dsimp only at hread
        split at hread
        · next hc =>
          cases hread
          exact .inl ⟨by rw [hc], rfl⟩
        · split at hread
          · next hc =>
            obtain ⟨⟨more, left⟩, hmore, ⟨⟩⟩ := Option.map_eq_some_iff.mp hread
            exact .inr ⟨others, more, by rw [hc], hmore, rfl⟩
          · cases hread
  · rintro ⟨value, behind, hpart, ⟨hbehind, rfl⟩ | ⟨others, more, hbehind, hmore, rfl⟩⟩
    · rw [readParts, hpart]
      simp only [hbehind, if_true]
    · rw [readParts, hpart]
      simp only [hbehind, hclosing.symm, if_false, if_true, hmore, Option.map_some]

theorem readParts_carries (h : Carries t small large) (hnil : small [] = none) {closing : Char}
    (hclosing : closing ≠ ',') {limit limit' : Nat} (hlimit : limit ≤ limit') :
    Carries t (readParts small closing limit) (readParts large closing limit') := by
  intro s
  induction limit generalizing s limit' with
  | zero => exact fun _ _ hread => nomatch hread
  | succ limit ih =>
    obtain ⟨limit', rfl⟩ := Nat.exists_eq_add_of_le' (Nat.lt_of_lt_of_le limit.succ_pos hlimit)
    intro values rest hread
    obtain ⟨value, behind, hpart, hvalues⟩ := (readParts_eq_some_iff hclosing).mp hread
    have hlarge : large (skipSpace (s ++ t)) = some (value, behind ++ t) := by
      cases hskip : skipSpace s with
      | nil =>
        rw [hskip, hnil] at hpart
        cases hpart
      | cons c s' =>
        rw [skipSpace_append_of_cons hskip, ← List.cons_append]
        exact h _ _ _ (hskip ▸ hpart)
    refine (readParts_eq_some_iff hclosing).mpr ⟨value, behind ++ t, hlarge, ?_⟩
    rcases hvalues with ⟨hbehind, rfl⟩ | ⟨others, more, hbehind, hmore, rfl⟩
    · exact .inl ⟨skipSpace_append_of_cons hbehind t, rfl⟩
    · have hless := ih (Nat.le_of_succ_le_succ hlimit) _ _ _ hmore
      exact .inr ⟨others ++ t, more, skipSpace_append_of_cons hbehind t, hless, rfl⟩

theorem readBracketed_carries (h : Carries t small large) (hnil : small [] = none)
    {closing : Char} (hclosing : closing ≠ ',') :
    Carries t (readBracketed small closing) (readBracketed large closing) := by
  intro s values rest hread
  rw [readBracketed] at hread
  cases hskip : skipSpace s with
  | nil =>
    rw [hskip] at hread
    cases hread
  | cons c s' =>
    rw [hskip] at hread
    rw [readBracketed, skipSpace_append_of_cons hskip]
    dsimp only at hread ⊢
    split at hread
    · cases hread
      rw [if_pos ‹_›]
    · next hopen =>
      have hlimit : s.length + 1 ≤ (s ++ t).length + 1 := by simp
      rw [if_neg hopen, ← List.cons_append]
      exact readParts_carries h hnil hclosing hlimit _ _ _ hread

end Parts

theorem readMember_carries {t : List Char} {small large : List Char → Option (Json × List Char)}
    (h : Carries t small large) (hnil : small [] = none) :
    Carries t (readMember small) (readMember large) := by
  intro s
  fun_cases readMember small s with
  | case1 | case3 | case4 => exact fun _ _ hread => nomatch hread
  | case2 s name behind htext value hcolon =>
    intro _ _ hread
    obtain ⟨⟨document, left⟩, hvalue, ⟨⟩⟩ := Option.map_eq_some_iff.mp hread
    show readMember large ('"' :: (s ++ t)) = _
    rw [readMember, readText_carries t _ _ _ htext]
    dsimp only
    rw [skipSpace_append_of_cons hcolon]
    cases hskip : skipSpace value with
    | nil =>
      rw [hskip, hnil] at hvalue
      cases hvalue
    | cons c value' =>
      show (large (skipSpace (value ++ t))).map _ = _
      rw [skipSpace_append_of_cons hskip, ← List.cons_append, h _ _ _ (hskip ▸ hvalue),
        Option.map_some]

/-! ### Documents -/

theorem readDocument_nil (depth : Nat) : readDocument depth [] = none := by
  cases depth <;> rfl

/-- At any depth a text that does not start with a bracket is a scalar. -/
theorem readDocument_eq_readScalar {s : List Char} (h : ∀ c ∈ s.head?, c ≠ '[' ∧ c ≠ '\x7b')
    (depth : Nat) : readDocument depth s = readScalar s := by
  cases depth with
  | zero => rfl
  | succ depth =>
    rw [readDocument.eq_4]
    · rintro _ rfl
      exact (h _ rfl).1 rfl
    · rintro _ rfl
      exact (h _ rfl).2 rfl

/-- A text starts with a bracket, or it does not. -/
theorem head_cases (s : List Char) :
    (∀ c ∈ s.head?, c ≠ '[' ∧ c ≠ '\x7b') ∨ ∃ rest, s = '[' :: rest ∨ s = '\x7b' :: rest := by
  cases s with
  | nil => exact .inl fun _ hc => nomatch hc
  | cons c rest =>
    by_cases hbracket : c = '[' ∨ c = '\x7b'
    · refine .inr ⟨rest, hbracket.imp ?_ ?_⟩
      all_goals exact fun hc => hc ▸ rfl
    · refine .inl fun d hd => ?_
      cases hd
      exact not_or.mp hbracket

theorem readScalar_bracket {c : Char} (h : c = '[' ∨ c = '\x7b') (s : List Char) :
    readScalar (c :: s) = none := by
  rcases h with rfl | rfl
  all_goals exact readScalar_eq_none (by decide) (by decide) s

/-- A text that is read as a document has a first character, and keeps it with more text behind. -/
theorem forall_head?_append {depth : Nat} {s : List Char} {result : Json × List Char}
    (hread : readDocument depth s = some result) {p : Char → Prop} (h : ∀ c ∈ s.head?, p c)
    (t : List Char) : ∀ c ∈ (s ++ t).head?, p c := by
  cases s with
  | nil =>
    rw [readDocument_nil] at hread
    cases hread
  | cons c s => exact h

/-- **Reading is local.**  A document that is read at the front of a text is also read with more
depth, and with more text behind it that does not continue a numeral. -/
theorem readDocument_carries {t : List Char} (h : Stops t) {depth depth' : Nat}
    (hdepth : depth ≤ depth') : Carries t (readDocument depth) (readDocument depth') := by
  induction depth generalizing depth' with
  | zero =>
    intro s value rest hread
    rcases head_cases s with hstart | ⟨s, rfl | rfl⟩
    · rw [readDocument_eq_readScalar (forall_head?_append hread hstart t)]
      exact readScalar_carries h _ _ _ hread
    all_goals
      rw [readDocument, readScalar_bracket (by decide)] at hread
      cases hread
  | succ depth ih =>
    obtain ⟨depth', rfl⟩ := Nat.exists_eq_add_of_le' (Nat.lt_of_lt_of_le depth.succ_pos hdepth)
    have hless : Carries t (readDocument depth) (readDocument depth') :=
      ih (Nat.le_of_succ_le_succ hdepth)
    intro s value rest hread
    rcases head_cases s with hstart | ⟨s, rfl | rfl⟩
    · rw [readDocument_eq_readScalar (forall_head?_append hread hstart t)]
      rw [readDocument_eq_readScalar hstart] at hread
      exact readScalar_carries h _ _ _ hread
    · obtain ⟨⟨items, left⟩, hitems, ⟨⟩⟩ := Option.map_eq_some_iff.mp hread
      rw [List.cons_append, readDocument.eq_2,
        readBracketed_carries hless (readDocument_nil depth) (by decide) _ _ _ hitems, Option.map_some]
    · obtain ⟨⟨members, left⟩, hmembers, ⟨⟩⟩ := Option.map_eq_some_iff.mp hread
      rw [List.cons_append, readDocument.eq_3,
        readBracketed_carries (readMember_carries hless (readDocument_nil depth)) rfl (by decide) _ _ _
          hmembers, Option.map_some]

/-- A text that consists of characters of a numeral is read as a number, or not at all. -/
theorem readDocument_numeral {s : List Char} (hne : s ≠ []) (hall : ∀ c ∈ s, isNumeralChar c)
    {t : List Char} (ht : Stops t) (depth : Nat) :
    readDocument depth (s ++ t) =
      (JsonNumber.ofChars? s).map fun value => (.number value, t) := by
  obtain ⟨c, rest, rfl⟩ := List.exists_cons_of_ne_nil hne
  have hc : isNumeralChar c := hall c List.mem_cons_self
  have hstart : ∀ d ∈ (c :: rest ++ t).head?, d ≠ '[' ∧ d ≠ '\x7b' := by
    rintro _ ⟨⟩
    constructor
    all_goals
      rintro rfl
      exact absurd hc (by decide)
  rw [readDocument_eq_readScalar hstart, List.cons_append, readScalar_of_isNumeralChar hc,
    ← List.cons_append, List.takeWhile_append_of_pos hall, List.dropWhile_append_of_pos hall,
    ht.takeWhile_eq_nil, ht.dropWhile_eq, List.append_nil]

end SqlNotebook.Json
