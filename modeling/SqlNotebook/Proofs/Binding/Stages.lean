/-
SqlNotebook/Proofs/Binding/Stages.lean

Binding in two stages.  The query of a fan-out is bound twice: first without the list
variable, and then, once for every item, with the list variable alone.

    sql  →  bind, `name` hidden  →  bind, only `name`   =   sql  →  bind, `name` too

The second stage reads what the first one has written.  It finds each reference again that
the first one has left (`scan_render`), but it no longer knows where a value stands.  Three
things can go wrong at a value, and nothing else: a colon in it, a quote in it that is left
open, and a colon behind it, which has ended a name and now starts one.
-/
import SqlNotebook.FanOut.Query
import SqlNotebook.Proofs.Binding.Quoting
import SqlNotebook.Proofs.Binding.Reference

namespace SqlNotebook

/-- Whether a value is an integer or a text. -/
def HostValue.isScalar : HostValue → Bool
  | .integer _ => true
  | .text _ => true
  | _ => false

/-- The environment in which `name` resolves to the given value instead. -/
def HostEnv.assign (env : HostEnv) (name : String) (value : HostValue) : HostEnv :=
  fun other => if other = name then some value else env other

namespace Binding

open Segment

/-! ### Names and values -/

variable (env : HostEnv) (name : String) (value : HostValue)

/-- A name has a value in one of the stages at most, and at once it has the same. -/
theorem value?_assign (other : List Char) :
    Segment.value? (env.assign name value) other =
      (Segment.value? (.single name value) other).or (Segment.value? (env.without name) other) := by
  simp only [← value?_eq_value?, Binding.value?, HostEnv.assign, HostEnv.single, HostEnv.without]
  by_cases hresolvable : isResolvable other
  · rw [if_pos hresolvable, if_pos hresolvable, if_pos hresolvable]
    by_cases hname : String.ofList other = name
    · rw [if_pos hname, if_pos hname]
      rfl
    · rw [if_neg hname, if_neg hname, if_neg hname]
      rfl
  · rw [if_neg hresolvable, if_neg hresolvable, if_neg hresolvable]
    rfl

theorem ne_of_value?_without {other : List Char} {found : HostValue}
    (h : Segment.value? (env.without name) other = some found) : other ≠ name.toList := by
  rintro rfl
  rw [← value?_eq_value?, Binding.value?, HostEnv.without, String.ofList_toList, if_pos rfl,
    ite_self] at h
  cases h

variable {env name value}

theorem bound_congr {env other : HostEnv} {read : List Char}
    (h : Segment.value? env read = Segment.value? other read) (next : Option Char) :
    (reference read).bound env next = (reference read).bound other next := by
  rw [bound, bound, h]

/-! ### What a scan makes of a text -/

variable (env)

/-- A scan copies a text without colons, and goes on behind it in the state of its quotes. -/
theorem bindChars_copied {s : List Char} (h : ':' ∉ s) (quote : QuoteState) (rest : List Char) :
    bindChars env (.copying quote) (s ++ rest) =
      s ++ bindChars env (.copying (quote.after s)) rest := by
  induction s generalizing quote with
  | nil => rfl
  | cons c s ih =>
    rw [List.mem_cons, not_or] at h
    rw [List.cons_append, bindChars, ih h.2]
    · rfl
    · rintro - rfl
      exact h.1 rfl

/-- A scan copies a text without colons that closes its quotes. -/
theorem scan_closed {s : List Char} (hcolon : ':' ∉ s) (hclosed : QuoteState.after none s = none)
    (rest : List Char) : scan env false (s ++ rest) = s ++ scan env false rest := by
  have hcopied := bindChars_copied env hcolon none rest
  rwa [hclosed] at hcopied

/-- A name that has been read. -/
theorem span_name {read rest : List Char} (hread : ∀ c ∈ read, isNameChar c)
    (hended : ∀ c ∈ rest.head?, ¬ isNameChar c) :
    (read ++ rest).takeWhile isNameChar = read ∧ (read ++ rest).dropWhile isNameChar = rest := by
  have htake := (eq_takeWhile_iff.mpr ⟨rest, rfl, hread, hended⟩).symm
  have hspan := List.takeWhile_append_dropWhile (p := isNameChar) (l := read ++ rest)
  rw [htake] at hspan
  exact ⟨htake, List.append_cancel_left hspan⟩

/-- A scan reads a reference and goes on behind it. -/
theorem scan_reference {read rest : List Char} (hread : ∀ c ∈ read, isNameChar c)
    (hended : ∀ c ∈ rest.head?, ¬ isNameChar c) :
    scan env false (':' :: (read ++ rest)) =
      (reference read).bound env rest.head? ++ scan env true rest := by
  obtain ⟨htake, hdrop⟩ := span_name hread hended
  rw [scan, if_neg Bool.false_ne_true, bindChars, bindChars_naming, htake, hdrop, List.nil_append,
    replace_eq_bound]
  rfl

/-- A scan copies a name. -/
theorem scan_name {read : List Char} (hread : ∀ c ∈ read, isNameChar c) (rest : List Char) :
    scan env false (read ++ rest) = read ++ scan env false rest := by
  refine scan_closed env (fun hcolon => absurd (hread ':' hcolon) (by decide)) ?_ rest
  refine QuoteState.after_of_no_quote fun c hc => not_isQuote_of_inName ?_
  rw [← isNameChar_eq_inName]
  exact hread c hc

/-- The names with a colon in front that follow each other at the start of a text. -/
def leadingNames : List Char → List (List Char)
  | [] => []
  | c :: rest =>
    if c = ':' then rest.takeWhile isNameChar :: leadingNames (rest.dropWhile isNameChar) else []
termination_by s => s.length
decreasing_by exact Nat.lt_succ_of_le (List.dropWhile_sublist _).length_le

/-- Whether a colon at the start may start a reference makes no difference if the names
there have no value. -/
theorem scan_behind {s : List Char} (h : ∀ read ∈ leadingNames s, Segment.value? env read = none) :
    scan env true s = scan env false s := by
  fun_induction leadingNames s with
  | case1 => rw [scan, scan, if_pos rfl, if_neg Bool.false_ne_true, bindBehind, bindChars]
  | case2 rest ih =>
    -- the first colon is copied with the name behind it, and then the next one is the first
    obtain ⟨hvalue, hbehind⟩ := List.forall_mem_cons.mp h
    have hread := isNameChar_takeWhile rest
    have hended := not_isNameChar_dropWhile rest
    have hstart := scan_reference env hread hended
    have hcopied := scan_name env hread (rest.dropWhile isNameChar)
    rw [List.takeWhile_append_dropWhile] at hstart hcopied
    rw [bound, hvalue] at hstart
    calc
      scan env true (':' :: rest) = ':' :: scan env false rest := rfl
      _ = ':' :: (rest.takeWhile isNameChar ++ scan env false (rest.dropWhile isNameChar)) := by
        rw [hcopied]
      _ = scan env false (':' :: rest) := by
        rw [hstart, ← ih hbehind]
        rfl
  | case3 c rest hcolon =>
    rw [scan_cons env fun hc => hcolon hc.1, scan_cons env fun hc => hcolon hc.1]

/-- No reference stands directly behind another one. -/
theorem head?_render_cut (s : List Char) : (render env (cut true s)).head? = s.head? := by
  fun_cases cut true s with
  | case1 | case2 | case3 | case5 => rfl
  | case4 c rest hquote hcolon => cases hcolon.2

/-! ### The two stages -/

/-- What has to hold of a value in front of `back`, so that a second stage for `name` takes
nothing in it or behind it for a reference. -/
structure Separate (name : String) (found : HostValue) (back : List Segment) : Prop where
  selfContained : found.isSelfContained
  /-- There is no colon in the value. -/
  plain : ':' ∉ (found.toSql ((back.flatMap source).head? ≠ some '.')).toList
  /-- Where the value is written without quotes, it closes those in it. -/
  closed : (back.flatMap source).head? = some '.' →
    QuoteState.after none (found.toSql false).toList = none
  /-- No colon behind the value, in what the first stage has written, leads to the name. -/
  unnamed : isResolvable name.toList →
    name.toList ∉ leadingNames (render (env.without name) back)

/-- Whether all values that the first stage writes are separate. -/
def AreSeparate (name : String) (cuts : List Segment) : Prop :=
  ∀ front other back found, cuts = front ++ .reference other :: back →
    Segment.value? (env.without name) other = some found → Separate env name found back

variable {env}

theorem areSeparate_nil (name : String) : AreSeparate env name [] := by
  intro front other back found hcuts
  simp at hcuts

theorem AreSeparate.cons {name : String} {segment : Segment} {cuts : List Segment}
    (hsegment : ∀ other found, segment = .reference other →
      Segment.value? (env.without name) other = some found → Separate env name found cuts)
    (hcuts : AreSeparate env name cuts) : AreSeparate env name (segment :: cuts) := by
  intro front other back found hall hfound
  rcases front with - | ⟨first, front⟩
  · obtain ⟨rfl, rfl⟩ := List.cons.inj hall
    exact hsegment other found rfl hfound
  · obtain ⟨rfl, rfl⟩ := List.cons.inj hall
    exact hcuts front other back found rfl hfound

theorem AreSeparate.tail {name : String} {segment : Segment} {cuts : List Segment}
    (h : AreSeparate env name (segment :: cuts)) : AreSeparate env name cuts := by
  rintro front other back found rfl hfound
  exact h (segment :: front) other back found rfl hfound

theorem Separate.after_toSql {name : String} {found : HostValue} {back : List Segment}
    (h : Separate env name found back) :
    QuoteState.after none (found.toSql ((back.flatMap source).head? ≠ some '.')).toList = none := by
  by_cases hpoint : (back.flatMap source).head? = some '.'
  · rw [decide_eq_false (not_not_intro hpoint)]
    exact h.closed hpoint
  · rw [decide_eq_true hpoint]
    exact found.after_toSql h.selfContained

/-- A separate value is copied, and what is behind it is read as behind a reference. -/
theorem Separate.scan_append {name : String} {found : HostValue} {back : List Segment}
    (h : Separate env name found back) (value : HostValue) :
    scan (.single name value) false
        ((found.toSql ((back.flatMap source).head? ≠ some '.')).toList ++
          render (env.without name) back) =
      (found.toSql ((back.flatMap source).head? ≠ some '.')).toList ++
        scan (.single name value) true (render (env.without name) back) := by
  rw [scan_closed _ h.plain h.after_toSql, scan_behind]
  intro read hread
  rw [value?_single, if_neg]
  rintro ⟨rfl, hresolvable⟩
  exact h.unnamed hresolvable hread

variable (env)

/-- **The second stage writes what is written at once.** -/
theorem scan_render (name : String) (value : HostValue) (behindReference : Bool) (s : List Char)
    (h : AreSeparate env name (cut behindReference s)) :
    scan (.single name value) behindReference (render (env.without name) (cut behindReference s)) =
      render (env.assign name value) (cut behindReference s) := by
  fun_induction cut behindReference s with
  | case1 behind => cases behind <;> rfl
  | case2 behind c rest hquote inside tail hcut ih =>
    have hregion (env : HostEnv) (next : Option Char) (text : List Char) :
        (quoted (c :: inside ++ [c])).bound env next ++ text = c :: (inside ++ c :: text) := by
      simp [bound, source]
    rw [render, render, ← ih h.tail, hregion, hregion, scan_quoted _ hquote,
      Chars.cutAt?_of_not_mem _ (Chars.not_mem_of_cutAt? hcut)]
  | case3 behind c rest hquote hcut =>
    show scan _ behind (c :: rest ++ []) = c :: rest ++ []
    rw [List.append_nil, scan_quoted _ hquote, hcut]
  | case4 behind c rest hquote hcolon ih =>
    obtain ⟨rfl, hbehind⟩ := hcolon
    obtain rfl : behind = false := by simpa using hbehind
    rw [← isNameChar_eq_inName] at *
    have hread := isNameChar_takeWhile rest
    have hended := not_isNameChar_dropWhile rest
    rw [render, render, ← ih h.tail]
    rcases hfound : Segment.value? (env.without name) (rest.takeWhile isNameChar) with - | found
    · -- the first stage leaves the reference, and the second one finds it with the same end
      have hhead : ∀ c ∈ (render (env.without name) (cut true (rest.dropWhile isNameChar))).head?,
          ¬ isNameChar c := by
        rw [head?_render_cut]
        exact hended
      rw [bound_of_value?_eq_none hfound, List.cons_append, scan_reference _ hread hhead,
        head?_render_cut, flatMap_source_cut]
      refine congrArg (· ++ _) (bound_congr ?_ _)
      rw [value?_assign, hfound, Option.or_none]
    · -- the first stage writes a value, and the second one reads on behind it
      have hne := ne_of_value?_without env name hfound
      rw [bound_of_value? hfound, (h [] _ _ found rfl hfound).scan_append value, bound_of_value?]
      rw [value?_assign, value?_single, if_neg fun hname => hne hname.1, hfound, Option.none_or]
  | case5 behind c rest hquote hcolon ih =>
    rw [render, render, ← ih h.tail]
    show scan _ behind (c :: render (env.without name) (cut false rest)) = _
    rw [scan_cons _ hcolon, QuoteState.next, if_neg hquote]
    rfl

end Binding

namespace FanOut

open Binding

/-- **Binding in two stages is binding at once**, if the values of the first stage are
separate. -/
theorem itemSql_bind_without (env : HostEnv) (name : String) (value : HostValue) (sql : String)
    (h : AreSeparate env name (segments sql)) :
    itemSql ((env.without name).bind sql) name value = (env.assign name value).bind sql := by
  rw [itemSql, HostEnv.bind_eq_bindChars, ← String.toList_inj, String.toList_ofList,
    HostEnv.toList_bind, HostEnv.toList_bind]
  exact scan_render env name value false sql.toList h

/-- A number and a text. -/
def mixed : HostEnv :=
  fun other =>
    if other = "a" then some (.integer 5)
    else if other = "s" then some (.text "it's")
    else none

/-- The list variable on both sides of the number, and a colon behind either. -/
def colons : String :=
  ":n::a::b,:s"

theorem itemSql_bind_without_colons :
    AreSeparate mixed "n" (segments colons) ∧
      itemSql ((mixed.without "n").bind colons) "n" (.text ":n") =
        (mixed.assign "n" (.text ":n")).bind colons := by
  have hcuts : segments colons = [.reference ['n'], .plain ':', .reference ['a'], .plain ':',
      .reference ['b'], .plain ',', .reference ['s']] := by
    decide +kernel
  have hseparate : AreSeparate mixed "n" (segments colons) := by
    rw [hcuts]
    refine .cons ?_ (.cons nofun (.cons ?_ (.cons nofun (.cons ?_ (.cons nofun (.cons ?_
      (areSeparate_nil "n")))))))
    · rintro _ found ⟨⟩ ⟨⟩
    · rintro _ found ⟨⟩ ⟨⟩
      exact ⟨rfl, by decide +kernel, by decide +kernel, by decide +kernel⟩
    · rintro _ found ⟨⟩ ⟨⟩
    · rintro _ found ⟨⟩ ⟨⟩
      exact ⟨rfl, by decide +kernel, by decide +kernel, by decide +kernel⟩
  exact ⟨hseparate, itemSql_bind_without mixed "n" (.text ":n") colons hseparate⟩

/-- Values without colons need not be separate: a colon behind a value starts a reference. -/
theorem itemSql_bind_without_ne :
    ¬ ∀ (env : HostEnv) (name : String) (value : HostValue) (sql : String),
      (∀ other found, other ≠ name → env other = some found → found.isScalar) → value.isScalar →
      (∀ other found quote, other ≠ name → env other = some found →
        ':' ∉ (found.toSql quote).toList) →
      itemSql ((env.without name).bind sql) name value = (env.assign name value).bind sql := by
  intro h
  have hfive {other : String} {found : HostValue}
      (hfound : HostEnv.single "a" (.integer 5) other = some found) : found = .integer 5 := by
    rw [HostEnv.single] at hfound
    split at hfound
    · exact (Option.some.inj hfound).symm
    · cases hfound
  have hsame := h (.single "a" (.integer 5)) "n" (.integer 1) ":n, :a:n"
    (fun other found _ hfound => hfive hfound ▸ rfl) rfl
    (fun other found quote _ hfound => by
      rw [hfive hfound, HostValue.toSql]
      decide)
  exact absurd hsame (by decide +kernel)

/-- A quote that a value leaves open hides the references behind it. -/
example :
    itemSql ((mixed.without "n").bind ":s.A, :n") "n" (.integer 1) = "it's.A, :n" ∧
      (mixed.assign "n" (.integer 1)).bind ":s.A, :n" = "it's.A, 1" := by
  decide +kernel

end FanOut

end SqlNotebook
