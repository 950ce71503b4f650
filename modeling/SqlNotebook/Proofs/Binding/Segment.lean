/-
SqlNotebook/Proofs/Binding/Segment.lean

SQL texts as sequences of segments, and binding as an operation on these.  A
text is cut from left to right into quoted regions, references and single other
characters:

    A=':x' OR :a.b    is    A  =  ':x'  ␣  O  R  ␣  :a  .  b

Binding replaces references and copies everything else:

    bind env sql  =  render env (segments sql)

The scan that binds a text knows of each character only whether it stands in a
name or in quotes.  Each segment is one stretch of that scan: `bindChars_quoted`
takes it over a quoted region, `bindChars_naming` over a name.  The character
behind a reference is the one place where the two states meet: it ends the name
and may open a region, but it does not start another reference.
-/
import SqlNotebook.Binding
import SqlNotebook.Text.Pieces

namespace SqlNotebook

/-! ### Segments -/

/-- A piece of an SQL text. -/
inductive Segment
  /-- A quoted region with its quotes; the second one may be missing at the end. -/
  | quoted (region : List Char)
  /-- A colon and the name behind it. -/
  | reference (name : List Char)
  /-- Any other character. -/
  | plain (c : Char)
deriving DecidableEq, Repr

namespace Segment

/-- The characters of a segment. -/
def source : Segment → List Char
  | quoted region => region
  | reference name => ':' :: name
  | plain c => [c]

/-- Whether a character can be part of a name. -/
def inName (c : Char) : Bool :=
  ('A' ≤ c && c ≤ 'Z') || ('a' ≤ c && c ≤ 'z') || ('0' ≤ c && c ≤ '9') || "_@[]".toList.contains c

/-- The segments of a text.  `behindReference` says that a reference ends in front
of the text, so that its first character is no start of another one. -/
def cut (behindReference : Bool) : List Char → List Segment
  | [] => []
  | c :: rest =>
    if isQuote c then
      match _h : Chars.cutAt? c rest with
      | some (inside, behind) => .quoted (c :: inside ++ [c]) :: cut false behind
      | none => [.quoted (c :: rest)]
    else if c = ':' ∧ !behindReference then
      .reference (rest.takeWhile inName) :: cut true (rest.dropWhile inName)
    else .plain c :: cut false rest
termination_by s => s.length
decreasing_by
  · exact Nat.lt_succ_of_lt (Chars.length_of_cutAt? ‹_›)
  · exact Nat.lt_succ_of_le (List.dropWhile_sublist _).length_le
  · exact Nat.lt_succ_self _

/-- The value of a name.  The empty name has none, and neither has one that starts
with a bracket. -/
def value? (env : HostEnv) (name : List Char) : Option HostValue :=
  if name = [] ∨ name.head? = some '[' ∨ name.head? = some ']' then none
  else env (String.ofList name)

/-- What stands for a segment in front of the character `next`. -/
def bound (env : HostEnv) (next : Option Char) : Segment → List Char
  | reference name =>
    match value? env name with
    | some value => (if next = some '.' then value.toSql false else value.toSql true).toList
    | none => ':' :: name
  | segment => segment.source

/-- The text in which every reference with a value is replaced. -/
def render (env : HostEnv) : List Segment → List Char
  | [] => []
  | segment :: rest => segment.bound env (rest.flatMap source).head? ++ render env rest

/-- Cutting loses nothing. -/
theorem flatMap_source_cut (behindReference : Bool) (s : List Char) :
    (cut behindReference s).flatMap source = s := by
  fun_induction cut behindReference s with
  | case1 => rfl
  | case2 _ c rest _ inside behind hcut ih =>
    rw [List.flatMap_cons, ih, source, Chars.eq_of_cutAt? hcut]
    simp
  | case3 _ c rest _ _ => simp [source]
  | case4 _ c rest _ hcolon ih =>
    rw [List.flatMap_cons, ih, source, List.cons_append, List.takeWhile_append_dropWhile, hcolon.1]
  | case5 _ c rest _ _ ih => rw [List.flatMap_cons, ih, source, List.singleton_append]

end Segment

/-- The segments of an SQL text. -/
def segments (sql : String) : List Segment :=
  Segment.cut false sql.toList

namespace Binding

open Segment

variable (env : HostEnv)

/-! ### Names -/

theorem isNameChar_eq_inName : isNameChar = inName := by
  funext c
  have upper : c.isUpper = decide ('A' ≤ c ∧ c ≤ 'Z') := rfl
  have lower : c.isLower = (decide ('a' ≤ c) && decide (c ≤ 'z')) := rfl
  have digit : c.isDigit = (decide ('0' ≤ c) && decide (c ≤ '9')) := rfl
  show (c.isUpper || c.isLower || c.isDigit || c = '_' || c = '@' || c = '[' || c = ']') = inName c
  rw [upper, lower, digit]
  simp [inName, Bool.or_assoc]

theorem value?_eq_value? (name : List Char) :
    Binding.value? env name = Segment.value? env name := by
  rcases name with - | ⟨c, rest⟩
  · rfl
  · rcases Decidable.em (c = '[') with h | h
    · simp [Binding.value?, Segment.value?, isResolvable, h]
    · by_cases h' : c = ']' <;> simp [Binding.value?, Segment.value?, isResolvable, h, h']

/-- Where only `name` has a value. -/
theorem value?_single (name : String) (value : HostValue) (other : List Char) :
    Segment.value? (.single name value) other =
      if other = name.toList ∧ isResolvable name.toList then some value else none := by
  rw [← value?_eq_value?, Binding.value?, HostEnv.single]
  by_cases hother : other = name.toList
  · subst hother
    simp
  · have hname : String.ofList other ≠ name := by
      rintro rfl
      exact hother String.toList_ofList.symm
    simp [hother, hname]

variable {env}

theorem bound_of_value? {name : List Char} {value : HostValue}
    (h : Segment.value? env name = some value) (next : Option Char) :
    (reference name).bound env next = (value.toSql (next ≠ some '.')).toList := by
  rw [bound, h]
  by_cases hpoint : next = some '.'
  · simp [hpoint]
  · simp [hpoint]

theorem bound_of_value?_eq_none {name : List Char} (h : Segment.value? env name = none)
    (next : Option Char) : (reference name).bound env next = ':' :: name := by
  rw [bound, h]

variable (env)

theorem replace_eq_bound (name : List Char) (next : Option Char) :
    replace env name next = (reference name).bound env next := by
  rw [replace, value?_eq_value?]
  rcases hvalue : Segment.value? env name with - | value
  · rw [bound_of_value?_eq_none hvalue]
  · rw [bound_of_value? hvalue]

/-! ### Stretches of the scan -/

/-- A scan copies a quoted region. -/
theorem bindChars_quoted (quote : Char) (s : List Char) :
    bindChars env (.copying (some quote)) s =
      match Chars.cutAt? quote s with
      | some (inside, behind) => inside ++ quote :: bindChars env (.copying none) behind
      | none => s := by
  induction s with
  | nil => simp [bindChars, Chars.cutAt?]
  | cons c s ih =>
    rw [bindChars, Chars.cutAt?_cons]
    · by_cases h : c = quote
      · simp [QuoteState.next, h]
      · rw [QuoteState.next, if_neg h, if_neg h, ih]
        rcases Chars.cutAt? quote s with - | ⟨inside, behind⟩ <;> rfl
    · simp

/-- What a scan makes of a text behind a reference. -/
def bindBehind : List Char → List Char
  | [] => []
  | c :: rest => c :: bindChars env (.copying (QuoteState.next none c)) rest

/-- A scan reads a name as far as it goes and replaces it. -/
theorem bindChars_naming (name s : List Char) :
    bindChars env (.naming name) s =
      replace env (name ++ s.takeWhile isNameChar) (s.dropWhile isNameChar).head? ++
        bindBehind env (s.dropWhile isNameChar) := by
  induction s generalizing name with
  | nil => simp [bindChars, bindBehind]
  | cons c s ih =>
    rw [bindChars]
    by_cases h : isNameChar c
    · rw [if_pos h, ih, List.takeWhile_cons_of_pos h, List.dropWhile_cons_of_pos h]
      simp
    · rw [if_neg h, List.takeWhile_cons_of_neg h, List.dropWhile_cons_of_neg h]
      simp [bindBehind]

/-- The scan of a text, behind a reference or not. -/
def scan (behindReference : Bool) (s : List Char) : List Char :=
  if behindReference then bindBehind env s else bindChars env (.copying none) s

/-- A quote starts no reference. -/
theorem not_colon_of_isQuote {c : Char} (hquote : isQuote c) (behindReference : Bool) :
    ¬(c = ':' ∧ !behindReference) := by
  rintro ⟨rfl, -⟩
  cases hquote

theorem scan_cons {behindReference : Bool} {c : Char}
    (h : ¬(c = ':' ∧ !behindReference)) (rest : List Char) :
    scan env behindReference (c :: rest) =
      c :: bindChars env (.copying (QuoteState.next none c)) rest := by
  rcases behindReference with - | -
  · have hc : c ≠ ':' := fun hc => h ⟨hc, rfl⟩
    rw [scan, if_neg Bool.false_ne_true, bindChars]
    rintro - hcolon
    exact hc hcolon
  · rfl

theorem scan_quoted {quote : Char} (hquote : isQuote quote) (behindReference : Bool)
    (rest : List Char) :
    scan env behindReference (quote :: rest) =
      match Chars.cutAt? quote rest with
      | some (inside, behind) => quote :: (inside ++ quote :: scan env false behind)
      | none => quote :: rest := by
  rw [scan_cons env (not_colon_of_isQuote hquote behindReference), QuoteState.next, if_pos hquote,
    bindChars_quoted]
  rcases Chars.cutAt? quote rest with - | ⟨inside, behind⟩
  · rfl
  · rfl

/-- **A scan renders the segments of the text that is left.** -/
theorem scan_eq_render (behindReference : Bool) (s : List Char) :
    scan env behindReference s = render env (cut behindReference s) := by
  fun_induction cut behindReference s with
  | case1 behind => cases behind <;> rfl
  | case2 behind c rest hquote inside tail hcut ih =>
    rw [scan_quoted env hquote, hcut, render, ← ih]
    simp [bound, source]
  | case3 behind c rest hquote hcut =>
    rw [scan_quoted env hquote, hcut]
    simp [render, bound, source]
  | case4 behind c rest hquote hcolon ih =>
    obtain ⟨rfl, hbehind⟩ := hcolon
    obtain rfl : behind = false := by simpa using hbehind
    have hscan : scan env false (':' :: rest) = bindChars env (.naming []) rest := by
      rw [scan, if_neg Bool.false_ne_true, bindChars]
    rw [hscan, bindChars_naming, isNameChar_eq_inName, replace_eq_bound, render, ← ih,
      flatMap_source_cut]
    rfl
  | case5 behind c rest hquote hcolon ih =>
    rw [scan_cons env hcolon, QuoteState.next, if_neg hquote, render, ← ih]
    rfl

/-- A text without a colon comes out of a scan as it is. -/
theorem bindChars_of_not_mem {quote : QuoteState} {s : List Char} (h : ':' ∉ s) :
    bindChars env (.copying quote) s = s := by
  induction s generalizing quote with
  | nil => rw [bindChars]
  | cons c s ih =>
    rw [List.mem_cons, not_or] at h
    rw [bindChars, ih h.2]
    rintro - rfl
    exact h.1 rfl

/-- A segment whose reference has no value is copied. -/
theorem render_of_unresolved {cuts : List Segment}
    (h : ∀ name, .reference name ∈ cuts → Segment.value? env name = none) :
    render env cuts = cuts.flatMap source := by
  induction cuts with
  | nil => rfl
  | cons segment rest ih =>
    have hbound (next : Option Char) : segment.bound env next = segment.source := by
      cases segment with
      | reference name => simp [bound, source, h name (by simp)]
      | quoted | plain => rfl
    rw [render, hbound, List.flatMap_cons, ih fun name hname => h name (by simp [hname])]

end Binding

namespace HostEnv

/-- The scan alone binds a text, with or without a colon in it. -/
theorem bind_eq_bindChars (env : HostEnv) (sql : String) :
    env.bind sql = String.ofList (Binding.bindChars env (.copying none) sql.toList) := by
  by_cases h : sql.toList.contains ':'
  · rw [bind, if_pos h]
  · rw [bind, if_neg h, Binding.bindChars_of_not_mem env (by simpa using h), String.ofList_toList]

theorem toList_bind (env : HostEnv) (sql : String) :
    (env.bind sql).toList = Segment.render env (segments sql) := by
  rw [bind_eq_bindChars, String.toList_ofList]
  exact Binding.scan_eq_render env false sql.toList

theorem bind_of_unresolved {env : HostEnv} {sql : String}
    (h : ∀ name, .reference name ∈ segments sql → Segment.value? env name = none) :
    env.bind sql = sql := by
  rw [← String.toList_inj, toList_bind, Binding.render_of_unresolved env h]
  exact Segment.flatMap_source_cut false sql.toList

end HostEnv

/-- **Binding replaces the references of a text and copies its other segments.**
The scan alone does so too, with or without a colon in the text, and where no
reference has a value the text stays as it is. -/
theorem HostEnv.bind_eq_render (env : HostEnv) (sql : String) :
    (env.bind sql).toList = Segment.render env (segments sql) ∧
      (segments sql).flatMap Segment.source = sql.toList ∧
      env.bind sql = String.ofList (Binding.bindChars env (.copying none) sql.toList) ∧
      ((∀ name, .reference name ∈ segments sql → Segment.value? env name = none) →
        env.bind sql = sql) :=
  ⟨env.toList_bind sql, Segment.flatMap_source_cut false sql.toList, env.bind_eq_bindChars sql,
    bind_of_unresolved⟩

end SqlNotebook
