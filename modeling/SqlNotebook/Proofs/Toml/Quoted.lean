/-
SqlNotebook/Proofs/Toml/Quoted.lean

Quoted texts are read back as they were written, in whichever of the four forms:

    readQuoted (quoteChars s ++ rest)  =  some (s, rest)    (`readQuoted_quoteChars`)

as long as `rest` does not go on with a quote, which the closing quotes would take in.

What has to be undone falls into two parts, and neither depends on the form.  Escapes are
the same between one double quote and between three (`ReadsEscapes`).  Three quotes of
either kind close a text so that up to two more quotes in front of them belong to it
(`ReadsRuns`); a writer that never lets three quotes of the text follow each other is
then read back, whatever the text ends with.
-/
import SqlNotebook.Text.Quote
import SqlNotebook.Toml.Quoted

namespace SqlNotebook.Toml

/-! ### Escapes -/

theorem hexNumber?_hexDigit {n : Nat} (h : n < 0x80) :
    Chars.hexNumber? ['0', '0', hexDigit (n / 16), hexDigit (n % 16)] = some n := by
  have hall : ∀ n : Fin 0x80,
      Chars.hexNumber? ['0', '0', hexDigit (n / 16), hexDigit (n % 16)] = some n := by
    decide +kernel
  exact hall ⟨n, h⟩

theorem toNat_lt_of_isControl {c : Char} (h : isControl c) : c.toNat < 0x80 := by
  simp only [isControl, Bool.or_eq_true, Bool.and_eq_true, decide_eq_true_eq] at h
  omega

theorem ne_of_not_isControl {c d : Char} (hd : isControl d) (hc : ¬ isControl c) : c ≠ d := by
  rintro rfl
  exact hc hd

/-- The code point of a control character is read as that character. -/
theorem codePoint?_of_isControl {c : Char} (h : isControl c) :
    codePoint? ['0', '0', hexDigit (c.toNat / 16), hexDigit (c.toNat % 16)] = some c := by
  have hvalid : c.toNat.isValidChar := c.valid
  rw [codePoint?, hexNumber?_hexDigit (toNat_lt_of_isControl h)]
  show Chars.ofCodePoint? c.toNat = some c
  rw [Chars.ofCodePoint?, if_pos hvalid, Char.ofNat_toNat]

/-- A reader of a quoted text that takes escapes for what they stand for, and other
characters for themselves. -/
structure ReadsEscapes (read : List Char → Option (List Char × List Char)) : Prop where
  letter : ∀ {x c : Char} (s : List Char), escaped? x = some c →
    read ('\\' :: x :: s) = prepend (some c) (read s)
  codePoint : ∀ (a b c d : Char) (s : List Char),
    read ('\\' :: 'u' :: a :: b :: c :: d :: s) = prepend (codePoint? [a, b, c, d]) (read s)
  plain : ∀ {c : Char} (s : List Char), ¬ isControl c → c ≠ '\\' → c ≠ '"' →
    read (c :: s) = prepend (some c) (read s)

/-- A character is read back from its escape. -/
theorem ReadsEscapes.escapeChar {read : List Char → Option (List Char × List Char)}
    (h : ReadsEscapes read) {c : Char} (hquote : c ≠ '"') (s : List Char) :
    read (escapeChar c ++ s) = prepend (some c) (read s) := by
  by_cases hslash : c = '\\'
  · subst hslash
    exact h.letter s rfl
  by_cases hback : c = '\x08'
  · subst hback
    exact h.letter s rfl
  by_cases htab : c = '\t'
  · subst htab
    exact h.letter s rfl
  by_cases hfeed : c = '\x0c'
  · subst hfeed
    exact h.letter s rfl
  by_cases hreturn : c = '\r'
  · subst hreturn
    exact h.letter s rfl
  rw [Toml.escapeChar, if_neg hslash, if_neg hback, if_neg htab, if_neg hfeed, if_neg hreturn]
  by_cases hcontrol : isControl c
  · rw [if_pos hcontrol]
    have hread := h.codePoint '0' '0' (hexDigit (c.toNat / 16)) (hexDigit (c.toNat % 16)) s
    rwa [codePoint?_of_isControl hcontrol] at hread
  · rw [if_neg hcontrol]
    exact h.plain s hcontrol hslash hquote

/-- The letters behind a backslash. -/
theorem eq_of_escaped? {x c : Char} (h : escaped? x = some c) :
    x = 'b' ∨ x = 't' ∨ x = 'n' ∨ x = 'f' ∨ x = 'r' ∨ x = '"' ∨ x = '\\' := by
  rw [escaped?.eq_def] at h
  split at h
  all_goals simp_all

theorem readsEscapes_readBasic : ReadsEscapes readBasic where
  letter s h := by
    rcases eq_of_escaped? h with rfl | rfl | rfl | rfl | rfl | rfl | rfl
    all_goals
      obtain rfl := Option.some.inj h
      rfl
  codePoint a b c d s := by rw [readBasic]
  plain {c} s hcontrol hslash hquote := by
    rw [readBasic]
    · simp [hcontrol, hslash]
    all_goals simp [hslash, hquote]

theorem readsEscapes_readLongBasic : ReadsEscapes (readLongBasic false) where
  letter s h := by
    rcases eq_of_escaped? h with rfl | rfl | rfl | rfl | rfl | rfl | rfl
    all_goals
      obtain rfl := Option.some.inj h
      rfl
  codePoint a b c d s := by rw [readLongBasic]
  plain {c} s hcontrol hslash hquote := by
    have hnewline : c ≠ '\n' := ne_of_not_isControl rfl hcontrol
    have hreturn : c ≠ '\r' := ne_of_not_isControl rfl hcontrol
    rw [readLongBasic]
    · simp [hcontrol, hslash]
    all_goals simp [hslash, hquote, hnewline, hreturn]

/-- What stands between two double quotes is read back. -/
theorem readBasic_escapeBasic (s rest : List Char) :
    readBasic (escapeBasic s ++ '"' :: rest) = some (s, rest) := by
  induction s with
  | nil => rfl
  | cons c s ih =>
    have hread {s' : List Char} :
        readBasic ((if c = '"' then ['\\', '"'] else escapeChar c) ++ s') =
          prepend (some c) (readBasic s') := by
      by_cases hquote : c = '"'
      · rw [if_pos hquote, hquote]
        rfl
      · rw [if_neg hquote]
        exact readsEscapes_readBasic.escapeChar hquote s'
    rw [escapeBasic, List.flatMap_cons, List.append_assoc, hread]
    show prepend (some c) (readBasic (escapeBasic s ++ '"' :: rest)) = _
    rw [ih]
    rfl

/-- What stands between two single quotes is read back. -/
theorem readLiteral_append {s : List Char} (hcontrol : ∀ c ∈ s, ¬ isControl c)
    (hquote : '\'' ∉ s) (rest : List Char) :
    readLiteral (s ++ '\'' :: rest) = some (s, rest) := by
  induction s with
  | nil => rfl
  | cons c s ih =>
    rw [List.forall_mem_cons] at hcontrol
    rw [List.mem_cons, not_or] at hquote
    rw [List.cons_append, readLiteral, if_neg hcontrol.1, ih hcontrol.2 hquote.2]
    · rfl
    · exact fun hc => hquote.1 hc.symm

/-! ### Quotes in a row -/

/-- A reader of a text between three quotes.  Where three or more quotes follow each
other, the last three close the text; fewer of them belong to it. -/
structure ReadsRuns (quote : Char) (read : List Char → Option (List Char × List Char)) :
    Prop where
  closed : ∀ {rest : List Char}, rest.head? ≠ some quote →
    read (quote :: quote :: quote :: rest) = some ([], rest)
  one : ∀ {rest : List Char}, rest.head? ≠ some quote →
    read (quote :: quote :: quote :: quote :: rest) = some ([quote], rest)
  two : ∀ rest : List Char,
    read (quote :: quote :: quote :: quote :: quote :: rest) = some ([quote, quote], rest)
  single : ∀ {s : List Char}, ¬ [quote, quote] <+: s →
    read (quote :: s) = prepend (some quote) (read s)

namespace ReadsRuns

variable {quote : Char} {read : List Char → Option (List Char × List Char)}

/-- A quote in front of a text, as long as it does not come to stand in front of two
others. -/
theorem cons_quote (h : ReadsRuns quote read) {inner s rest : List Char}
    (hrest : rest.head? ≠ some quote) (hinner : ¬ [quote, quote] <+: inner)
    (hread : read (inner ++ quote :: quote :: quote :: rest) = some (s, rest)) :
    read (quote :: inner ++ quote :: quote :: quote :: rest) = some (quote :: s, rest) := by
  have hprepend (hsingle : ¬ [quote, quote] <+: inner ++ quote :: quote :: quote :: rest) :
      read (quote :: inner ++ quote :: quote :: quote :: rest) = some (quote :: s, rest) := by
    rw [List.cons_append, h.single hsingle, hread]
    rfl
  -- only quotes with nothing behind them run into those that close the text
  rcases inner with - | ⟨c, - | ⟨d, inner⟩⟩
  · rw [List.nil_append, h.closed hrest] at hread
    cases hread
    exact h.one hrest
  · by_cases hc : c = quote
    · subst hc
      rw [List.singleton_append, h.one hrest] at hread
      cases hread
      exact h.two rest
    · exact hprepend fun hstart => hc (List.cons_prefix_cons.mp hstart).1.symm
  · refine hprepend fun hstart => hinner ?_
    rw [List.cons_append, List.cons_prefix_cons, List.cons_append, List.cons_prefix_cons] at hstart
    rw [List.cons_prefix_cons, List.cons_prefix_cons]
    exact ⟨hstart.1, hstart.2.1, List.nil_prefix⟩

end ReadsRuns

theorem readsRuns_readLongBasic : ReadsRuns '"' (readLongBasic false) where
  closed {rest} hrest := by
    rcases rest with - | ⟨c, rest⟩
    · rfl
    · have hc : c ≠ '"' := fun hc => hrest (hc ▸ rfl)
      rw [readLongBasic]
      all_goals simp [hc]
  one {rest} hrest := by
    rcases rest with - | ⟨c, rest⟩
    · rfl
    · have hc : c ≠ '"' := fun hc => hrest (hc ▸ rfl)
      rw [readLongBasic]
      all_goals simp [hc]
  two rest := by rw [readLongBasic]
  single {s} hs := by
    have hpair (t : List Char) : s ≠ '"' :: '"' :: t := by
      rintro rfl
      exact hs ⟨t, rfl⟩
    rw [readLongBasic]
    · rfl
    all_goals simp [hpair]

theorem readsRuns_readLongLiteral : ReadsRuns '\'' readLongLiteral where
  closed {rest} hrest := by
    rcases rest with - | ⟨c, rest⟩
    · rfl
    · have hc : c ≠ '\'' := fun hc => hrest (hc ▸ rfl)
      rw [readLongLiteral]
      all_goals simp [hc]
  one {rest} hrest := by
    rcases rest with - | ⟨c, rest⟩
    · rfl
    · have hc : c ≠ '\'' := fun hc => hrest (hc ▸ rfl)
      rw [readLongLiteral]
      all_goals simp [hc]
  two rest := by rw [readLongLiteral]
  single {s} hs := by
    have hpair (t : List Char) : s ≠ '\'' :: '\'' :: t := by
      rintro rfl
      exact hs ⟨t, rfl⟩
    rw [readLongLiteral]
    · rfl
    all_goals simp [hpair]

/-! ### Texts between three quotes -/

/-- A character is written as itself or with a backslash in front. -/
theorem head?_escapeChar_append (c : Char) (s : List Char) :
    (escapeChar c ++ s).head? = some '\\' ∨
      (escapeChar c ++ s).head? = some c ∧ ¬ isControl c := by
  rw [escapeChar]
  repeat' split
  all_goals simp [*]

theorem head?_escapeChar_ne {c d : Char} (hd : d ≠ '\\') (hc : c = d → isControl c)
    (s : List Char) : (escapeChar c ++ s).head? ≠ some d := by
  intro h
  rcases head?_escapeChar_append c s with hslash | ⟨hself, hcontrol⟩
  · rw [hslash] at h
    exact hd (Option.some.inj h).symm
  · rw [hself] at h
    exact hcontrol (hc (Option.some.inj h))

/-- Only a quote is written with a quote at the start. -/
theorem head?_escapeLongBasic_ne {c : Char} (hquote : c ≠ '"') (seen : Nat) (s : List Char) :
    (escapeLongBasic seen (c :: s)).head? ≠ some '"' := by
  rw [escapeLongBasic, if_neg hquote]
  by_cases hnewline : c = '\n'
  · rw [if_pos hnewline]
    exact fun h => absurd (Option.some.inj h) (by decide)
  · rw [if_neg hnewline]
    exact head?_escapeChar_ne (by decide) (absurd · hquote) _

/-- Behind two quotes in a row, no third one is written. -/
theorem head?_escapeLongBasic_two (s : List Char) : (escapeLongBasic 2 s).head? ≠ some '"' := by
  rcases s with - | ⟨c, s⟩
  · rw [escapeLongBasic]
    exact nofun
  · by_cases hquote : c = '"'
    · rw [escapeLongBasic, if_pos hquote, if_pos rfl]
      exact fun h => absurd (Option.some.inj h) (by decide)
    · exact head?_escapeLongBasic_ne hquote 2 s

theorem not_pair_prefix_of_head? {quote : Char} {s : List Char} (h : s.head? ≠ some quote) :
    ¬ [quote, quote] <+: s := by
  rintro ⟨t, rfl⟩
  exact h rfl

/-- Behind a quote, no two others are written. -/
theorem not_pair_prefix_escapeLongBasic {seen : Nat} (hseen : seen < 2) (s : List Char) :
    ¬ ['"', '"'] <+: escapeLongBasic (seen + 1) s := by
  rcases s with - | ⟨c, s⟩
  · rw [escapeLongBasic]
    exact nofun
  · by_cases hquote : c = '"'
    · rw [escapeLongBasic, if_pos hquote]
      obtain rfl | rfl : seen = 0 ∨ seen = 1 := by omega
      · rw [if_neg (by decide), List.cons_prefix_cons]
        rintro ⟨-, t, ht⟩
        exact head?_escapeLongBasic_two s (by rw [← ht]; rfl)
      · rw [if_pos rfl]
        exact not_pair_prefix_of_head? fun h => absurd (Option.some.inj h) (by decide)
    · exact not_pair_prefix_of_head? (head?_escapeLongBasic_ne hquote _ s)

/-- What stands between three double quotes is read back. -/
theorem readLongBasic_escapeLongBasic {seen : Nat} (hseen : seen ≤ 2) (s : List Char)
    {rest : List Char} (hrest : rest.head? ≠ some '"') :
    readLongBasic false (escapeLongBasic seen s ++ '"' :: '"' :: '"' :: rest) =
      some (s, rest) := by
  -- `seen` counts the quotes directly in front, up to the two that may stay unescaped
  induction s generalizing seen with
  | nil => exact readsRuns_readLongBasic.closed hrest
  | cons c s ih =>
    rw [escapeLongBasic]
    by_cases hquote : c = '"'
    · subst hquote
      rw [if_pos rfl]
      by_cases htwo : seen = 2
      · rw [if_pos htwo]
        have hescape := readsEscapes_readLongBasic.letter (x := '"') (c := '"')
          (escapeLongBasic 0 s ++ '"' :: '"' :: '"' :: rest) rfl
        rw [ih (Nat.zero_le 2)] at hescape
        exact hescape
      · rw [if_neg htwo]
        have hseen' : seen < 2 := by omega
        exact readsRuns_readLongBasic.cons_quote hrest
          (not_pair_prefix_escapeLongBasic hseen' s) (ih hseen')
    · rw [if_neg hquote]
      by_cases hnewline : c = '\n'
      · subst hnewline
        rw [if_pos rfl, List.cons_append, readLongBasic, ih (Nat.zero_le 2)]
        · rfl
        · exact nofun
      · rw [if_neg hnewline, List.append_assoc, readsEscapes_readLongBasic.escapeChar hquote,
          ih (Nat.zero_le 2)]
        rfl

/-- Behind a quote, there are no two others in a text without three in a row. -/
theorem not_pair_prefix_of_hasTriple {quote : Char} {seen : Nat} {s : List Char} (hseen : seen < 2)
    (h : hasTriple quote (seen + 1) s = false) : ¬ [quote, quote] <+: s := by
  rintro ⟨t, rfl⟩
  rw [List.cons_append, hasTriple, if_pos rfl] at h
  obtain rfl | rfl : seen = 0 ∨ seen = 1 := by omega
  · rw [if_neg (by decide), List.cons_append, hasTriple, if_pos rfl, if_pos rfl] at h
    cases h
  · rw [if_pos rfl] at h
    cases h

/-- What stands between three single quotes is read back. -/
theorem readLongLiteral_append {seen : Nat} (hseen : seen ≤ 2) {s : List Char}
    (hcontrol : ∀ c ∈ s, ¬ needsEscape c) (htriple : hasTriple '\'' seen s = false)
    {rest : List Char} (hrest : rest.head? ≠ some '\'') :
    readLongLiteral (s ++ '\'' :: '\'' :: '\'' :: rest) = some (s, rest) := by
  induction s generalizing seen with
  | nil => exact readsRuns_readLongLiteral.closed hrest
  | cons c s ih =>
    rw [List.forall_mem_cons] at hcontrol
    rw [hasTriple] at htriple
    by_cases hquote : c = '\''
    · subst hquote
      rw [if_pos rfl] at htriple
      by_cases htwo : seen = 2
      · rw [if_pos htwo] at htriple
        cases htriple
      · rw [if_neg htwo] at htriple
        have hseen' : seen < 2 := by omega
        exact readsRuns_readLongLiteral.cons_quote hrest
          (not_pair_prefix_of_hasTriple hseen' htriple) (ih hseen' hcontrol.2 htriple)
    · rw [if_neg hquote] at htriple
      have hread := ih (Nat.zero_le 2) hcontrol.2 htriple
      by_cases hnewline : c = '\n'
      · subst hnewline
        rw [List.cons_append, readLongLiteral, hread]
        rfl
      · have hplain : ¬ isControl c := fun hc => hcontrol.1 (by simp [needsEscape, hc, hnewline])
        have hreturn : c ≠ '\r' := ne_of_not_isControl rfl hplain
        rw [List.cons_append, readLongLiteral, if_neg hplain, hread]
        · rfl
        all_goals simp [hquote, hnewline, hreturn]

/-! ### All forms -/

/-- A text on one line that is written with escapes. -/
theorem readQuoted_basic (s : List Char) {rest : List Char} (hrest : rest.head? ≠ some '"') :
    readQuoted ('"' :: (escapeBasic s ++ '"' :: rest)) = some (s, rest) := by
  -- two more quotes would open a text of several lines; only an empty text comes close
  have hopen (t : List Char) : escapeBasic s ++ '"' :: rest ≠ '"' :: '"' :: t := by
    rcases s with - | ⟨c, s⟩
    · intro h
      obtain rfl : rest = '"' :: t := (List.cons.inj h).2
      exact hrest rfl
    · intro h
      rw [escapeBasic, List.flatMap_cons, List.append_assoc] at h
      by_cases hquote : c = '"'
      · rw [if_pos hquote] at h
        cases h
      · rw [if_neg hquote] at h
        exact head?_escapeChar_ne (by decide) (absurd · hquote) _ (congrArg List.head? h)
  rw [readQuoted]
  · exact readBasic_escapeBasic s rest
  · exact hopen

/-- A text on one line that is written as it is. -/
theorem readQuoted_literal {s rest : List Char} (hcontrol : ∀ c ∈ s, ¬ isControl c)
    (hquote : '\'' ∉ s) (hrest : rest.head? ≠ some '\'') :
    readQuoted ('\'' :: (s ++ '\'' :: rest)) = some (s, rest) := by
  have hopen (t : List Char) : s ++ '\'' :: rest ≠ '\'' :: '\'' :: t := by
    rcases s with - | ⟨c, s⟩
    · intro h
      obtain rfl : rest = '\'' :: t := (List.cons.inj h).2
      exact hrest rfl
    · intro h
      exact hquote ((List.cons.inj h).1 ▸ List.mem_cons_self)
  rw [readQuoted]
  · exact readLiteral_append hcontrol hquote rest
  · exact hopen

/-- The newline that is written in front of a text of several lines does not count, and
no other text starts with one. -/
theorem dropNewline_lead {text inner : List Char}
    (h : '\n' ∉ text → afterNewline? inner = none) :
    dropNewline ((if text.contains '\n' then ['\n'] else []) ++ inner) = inner := by
  by_cases hnewline : text.contains '\n'
  · rw [if_pos hnewline]
    rfl
  · rw [if_neg hnewline, List.nil_append, dropNewline, h (by simpa using hnewline)]
    rfl

theorem afterNewline?_of_head? {s : List Char} (hnewline : s.head? ≠ some '\n')
    (hreturn : s.head? ≠ some '\r') : afterNewline? s = none := by
  rcases s with - | ⟨c, s⟩
  · rfl
  · have hc : c ≠ '\n' ∧ c ≠ '\r' := ⟨fun hc => hnewline (hc ▸ rfl), fun hc => hreturn (hc ▸ rfl)⟩
    rw [afterNewline?]
    all_goals simp [hc]

/-- A text on one line starts with no line end, also with its escapes. -/
theorem afterNewline?_escapeLongBasic {s : List Char} (h : '\n' ∉ s) (rest : List Char) :
    afterNewline? (escapeLongBasic 0 s ++ '"' :: rest) = none := by
  rcases s with - | ⟨c, s⟩
  · rfl
  · rw [List.mem_cons, not_or] at h
    rw [escapeLongBasic]
    by_cases hquote : c = '"'
    · rw [if_pos hquote]
      rfl
    · rw [if_neg hquote, if_neg fun hc => h.1 hc.symm, List.append_assoc]
      exact afterNewline?_of_head? (head?_escapeChar_ne (by decide) (fun hc => hc ▸ rfl) _)
        (head?_escapeChar_ne (by decide) (fun hc => hc ▸ rfl) _)

/-- What stands between three quotes of either kind, read by what reads up to these. -/
theorem readQuoted_betweenTriples {quote : Char}
    {read : List Char → Option (List Char × List Char)} {s inner rest : List Char}
    (hopen : ∀ t, readQuoted (quote :: quote :: quote :: t) = read (dropNewline t))
    (hlead : '\n' ∉ s → afterNewline? (inner ++ quote :: quote :: quote :: rest) = none)
    (hread : read (inner ++ quote :: quote :: quote :: rest) = some (s, rest)) :
    readQuoted (betweenTriples quote s inner ++ rest) = some (s, rest) := by
  have htext : betweenTriples quote s inner ++ rest =
      quote :: quote :: quote :: ((if s.contains '\n' then ['\n'] else []) ++
        (inner ++ quote :: quote :: quote :: rest)) := by
    rw [betweenTriples]
    simp only [List.append_assoc, List.cons_append, List.nil_append]
  rw [htext, hopen, dropNewline_lead hlead, hread]

/-- A text between three double quotes. -/
theorem readQuoted_longBasic (s : List Char) {rest : List Char} (hrest : rest.head? ≠ some '"') :
    readQuoted (betweenTriples '"' s (escapeLongBasic 0 s) ++ rest) = some (s, rest) :=
  readQuoted_betweenTriples (fun _ => by rw [readQuoted])
    (fun hnewline => afterNewline?_escapeLongBasic hnewline _)
    (readLongBasic_escapeLongBasic (Nat.zero_le 2) s hrest)

/-- A text between three single quotes. -/
theorem readQuoted_longLiteral {s rest : List Char} (hcontrol : ∀ c ∈ s, ¬ needsEscape c)
    (htriple : hasTriple '\'' 0 s = false) (hrest : rest.head? ≠ some '\'') :
    readQuoted (betweenTriples '\'' s s ++ rest) = some (s, rest) := by
  refine readQuoted_betweenTriples (fun _ => by rw [readQuoted]) (fun hnewline => ?_)
    (readLongLiteral_append (Nat.zero_le 2) hcontrol htriple hrest)
  rcases s with - | ⟨c, s⟩
  · rfl
  · apply afterNewline?_of_head?
    · exact fun hc => hnewline (Option.some.inj hc ▸ List.mem_cons_self)
    · exact fun hc => hcontrol '\r' (Option.some.inj hc ▸ List.mem_cons_self) rfl

/-- Every form starts with a quote. -/
theorem quoteChars_eq_cons (s : List Char) :
    ∃ c rest, quoteChars s = c :: rest ∧ (c = '"' ∨ c = '\'') := by
  rw [quoteChars]
  repeat' split
  · exact ⟨_, _, rfl, .inl rfl⟩
  · exact ⟨_, _, rfl, .inr rfl⟩
  · exact ⟨_, _, rfl, .inl rfl⟩
  · exact ⟨_, _, rfl, .inr rfl⟩
  · exact ⟨_, _, rfl, .inl rfl⟩
  · exact ⟨_, _, rfl, .inl rfl⟩

/-- **A text in quotes is read back**, as long as no quote follows it. -/
theorem readQuoted_quoteChars (s : List Char) {rest : List Char}
    (hrest : ∀ c ∈ rest.head?, ¬ isQuote c) :
    readQuoted (quoteChars s ++ rest) = some (s, rest) := by
  have hdouble : rest.head? ≠ some '"' := fun h => hrest '"' h rfl
  have hsingle : rest.head? ≠ some '\'' := fun h => hrest '\'' h rfl
  have hbasic : readQuoted ('"' :: (escapeBasic s ++ ['"']) ++ rest) = some (s, rest) := by
    rw [List.cons_append, List.append_assoc, List.singleton_append]
    exact readQuoted_basic s hdouble
  rw [quoteChars]
  split
  · exact hbasic
  split
  · next h =>
    simp only [Bool.and_eq_true, Bool.not_eq_true', List.any_eq_false, List.contains_eq_mem,
      decide_eq_false_iff_not] at h
    obtain ⟨⟨hplain, hnewline⟩, hquote⟩ := h
    have hcontrol : ∀ c ∈ s, ¬ isControl c := by
      intro c hc hcontrol
      have hne : c ≠ '\n' := fun hn => hnewline (hn ▸ hc)
      exact hplain c hc (by simp [needsEscape, hcontrol, hne])
    rw [List.cons_append, List.append_assoc, List.singleton_append]
    exact readQuoted_literal hcontrol hquote hsingle
  split
  · exact readQuoted_longBasic s hdouble
  split
  · next h =>
    simp only [Bool.and_eq_true, Bool.not_eq_true', List.any_eq_false] at h
    exact readQuoted_longLiteral h.1 h.2 hsingle
  split
  · exact hbasic
  · exact readQuoted_longBasic s hdouble

end SqlNotebook.Toml
