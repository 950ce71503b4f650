/-
SqlNotebook/Proofs/Binding/Quoting.lean

Values stay in their places.  A value that is an integer, a text, a document or a list
of such values is written so that every quote it opens is closed again:

    toSql true value    leads from outside of quotes to outside of quotes

(`after_toSql`).  So a scan for quotes that goes over a bound text is, at every character
that has been copied from the SQL text, where it is at that character in the SQL text
itself.  Which characters have been copied, and from where, is what `HostEnv.trace` tells.

A reference with a point behind it is written without quotes and has to be left out.
-/
import Mathlib.Data.List.TakeWhile
import SqlNotebook.Proofs.Binding.Segment
import SqlNotebook.Proofs.Text.Numerals

namespace SqlNotebook

/-! ### Values that close their quotes -/

theorem QuoteState.after_of_no_quote {s : List Char} (h : ∀ c ∈ s, ¬ isQuote c) :
    QuoteState.after none s = none := by
  induction s with
  | nil => rfl
  | cons c s ih =>
    rw [List.forall_mem_cons] at h
    rw [after_cons, next, if_neg h.1]
    exact ih h.2

/-- Texts that close their quotes do so with commas between them. -/
theorem QuoteState.after_intercalate_comma {parts : List (List Char)}
    (h : ∀ part ∈ parts, QuoteState.after none part = none) :
    QuoteState.after none ([','].intercalate parts) = none := by
  induction parts with
  | nil => rfl
  | cons part parts ih =>
    rw [List.forall_mem_cons] at h
    rcases parts with - | ⟨other, parts⟩
    · rw [List.intercalate_singleton]
      exact h.1
    · rw [List.intercalate_cons_cons, after_append, after_append, h.1]
      exact ih h.2

namespace HostValue

mutual

/-- Whether a value is an integer, a text, a document, or a list of such values. -/
def isSelfContained : HostValue → Bool
  | .integer _ => true
  | .text _ => true
  | .document _ => true
  | .list items => areSelfContained items
  | .float _ => false
  | .raw _ => false
  | .table _ => false

/-- Whether all values are self-contained. -/
def areSelfContained : List HostValue → Bool
  | [] => true
  | item :: rest => item.isSelfContained && areSelfContained rest

end

/-- A doubled quote closes the region and opens it again. -/
theorem after_doubleQuotes (s : List Char) :
    QuoteState.after (some '\'') (doubleQuotes s) = some '\'' := by
  induction s with
  | nil => rfl
  | cons c s ih =>
    rw [doubleQuotes, List.flatMap_cons, QuoteState.after_append]
    by_cases hc : c = '\''
    · rw [if_pos hc]
      exact ih
    · rw [if_neg hc, QuoteState.after_cons, QuoteState.next, if_neg hc]
      exact ih

theorem after_literal (value : String) :
    QuoteState.after none (literal value).toList = none := by
  rw [literal, String.toList_ofList, QuoteState.after_cons, QuoteState.after_append]
  show ((QuoteState.after (some '\'') _).after ['\'']) = none
  rw [after_doubleQuotes]
  rfl

theorem not_isQuote_of_mem_toString {value : Int} {c : Char} (h : c ∈ (toString value).toList) :
    ¬ isQuote c := by
  intro hquote
  rw [isQuote, Bool.or_eq_true, decide_eq_true_eq, decide_eq_true_eq] at hquote
  rcases eq_minus_or_isDigit_of_mem_toString h with rfl | hdigit
  · exact absurd hquote (by decide)
  · rcases hquote with rfl | rfl
    · exact absurd hdigit (by decide)
    · exact absurd hdigit (by decide)

mutual

/-- **A self-contained value closes the quotes that it opens.** -/
theorem after_toSql (value : HostValue) (h : value.isSelfContained) :
    QuoteState.after none (value.toSql true).toList = none := by
  cases value with
  | integer value =>
    rw [toSql]
    exact QuoteState.after_of_no_quote fun c => not_isQuote_of_mem_toString
  | text value => exact after_literal value
  | document value => exact after_literal value.render
  | list items =>
    rw [toSql, Text.toList_join]
    exact QuoteState.after_intercalate_comma (after_itemsSql items h)
  | float | raw | table => cases h

theorem after_itemsSql (items : List HostValue) (h : areSelfContained items) :
    ∀ part ∈ (itemsSql items).map String.toList, QuoteState.after none part = none := by
  cases items with
  | nil => exact nofun
  | cons item rest =>
    rw [areSelfContained, Bool.and_eq_true] at h
    rw [itemsSql, List.map_cons, List.forall_mem_cons]
    exact ⟨after_toSql item h.1, after_itemsSql rest h.2⟩

end

end HostValue

/-! ### Where characters come from -/

/-- The characters of a text, each with its place; `place` is that of the first one. -/
def placed : Nat → List Char → List (Option Nat × Char)
  | _, [] => []
  | place, c :: rest => (some place, c) :: placed (place + 1) rest

theorem map_snd_placed (place : Nat) (s : List Char) : (placed place s).map Prod.snd = s := by
  induction s generalizing place with
  | nil => rfl
  | cons c s ih => rw [placed, List.map_cons, ih]

theorem filterMap_fst_placed (place : Nat) (s : List Char) :
    (placed place s).filterMap Prod.fst = List.range' place s.length := by
  induction s generalizing place with
  | nil => rfl
  | cons c s ih =>
    show place :: (placed (place + 1) s).filterMap Prod.fst = _
    rw [ih, List.length_cons, List.range'_succ]

namespace Segment

variable (env : HostEnv)

/-- Whether a value stands for a segment. -/
def isReplaced : Segment → Bool
  | reference name => (value? env name).isSome
  | _ => false

/-- What stands for a segment that starts at `place`, in front of the character `next`.
The characters of a value come from no place. -/
def traced (place : Nat) (next : Option Char) (segment : Segment) : List (Option Nat × Char) :=
  if segment.isReplaced env then (segment.bound env next).map fun c => (none, c)
  else placed place segment.source

/-- What stands for segments of which the first one starts at `place`. -/
def trace : Nat → List Segment → List (Option Nat × Char)
  | _, [] => []
  | place, segment :: rest =>
    segment.traced env place (rest.flatMap source).head? ++
      trace (place + segment.source.length) rest

theorem bound_of_not_isReplaced {segment : Segment} (h : ¬ segment.isReplaced env)
    (next : Option Char) : segment.bound env next = segment.source := by
  cases segment with
  | reference name =>
    have hvalue : value? env name = none := by simpa [isReplaced] using h
    rw [bound, hvalue]
    rfl
  | quoted | plain => rfl

/-- The traced characters are those of the bound text. -/
theorem map_snd_trace (place : Nat) (cuts : List Segment) :
    (trace env place cuts).map Prod.snd = render env cuts := by
  induction cuts generalizing place with
  | nil => rfl
  | cons segment rest ih =>
    have hsegment (next : Option Char) :
        (segment.traced env place next).map Prod.snd = segment.bound env next := by
      rw [traced]
      by_cases hreplaced : segment.isReplaced env
      · rw [if_pos hreplaced, List.map_map]
        exact List.map_id _
      · rw [if_neg hreplaced, map_snd_placed, bound_of_not_isReplaced env hreplaced]
    rw [trace, List.map_append, hsegment, ih, render]

/-- A segment that is not replaced keeps its places. -/
theorem filterMap_fst_traced (place : Nat) (next : Option Char) (segment : Segment) :
    (segment.traced env place next).filterMap Prod.fst =
      if segment.isReplaced env then [] else List.range' place segment.source.length := by
  rw [traced]
  by_cases hreplaced : segment.isReplaced env
  · rw [if_pos hreplaced, if_pos hreplaced, List.filterMap_map]
    exact List.filterMap_eq_nil_iff.mpr fun _ _ => rfl
  · rw [if_neg hreplaced, if_neg hreplaced, filterMap_fst_placed]

/-- Which places are kept depends only on which references have a value. -/
theorem filterMap_fst_trace_congr {env other : HostEnv} {cuts : List Segment}
    (h : ∀ segment ∈ cuts, segment.isReplaced env = segment.isReplaced other) (place : Nat) :
    (trace env place cuts).filterMap Prod.fst = (trace other place cuts).filterMap Prod.fst := by
  induction cuts generalizing place with
  | nil => rfl
  | cons segment rest ih =>
    rw [List.forall_mem_cons] at h
    rw [trace, trace, List.filterMap_append, List.filterMap_append, filterMap_fst_traced,
      filterMap_fst_traced, h.1, ih h.2]

/-- The places that are kept are those of the segments that are not replaced. -/
theorem mem_filterMap_fst_trace {place start : Nat} {cuts : List Segment} :
    place ∈ (trace env start cuts).filterMap Prod.fst ↔
      ∃ before segment after, cuts = before ++ segment :: after ∧ ¬ segment.isReplaced env ∧
        start + (before.flatMap source).length ≤ place ∧
        place < start + (before.flatMap source).length + segment.source.length := by
  induction cuts generalizing start with
  | nil => simp [trace]
  | cons segment rest ih =>
    rw [trace, List.filterMap_append, List.mem_append, filterMap_fst_traced, ih]
    constructor
    · rintro (hplace | ⟨before, kept, after, rfl, hkept, hfrom, hto⟩)
      · by_cases hreplaced : segment.isReplaced env
        · rw [if_pos hreplaced] at hplace
          cases hplace
        · rw [if_neg hreplaced, List.mem_range'_1] at hplace
          exact ⟨[], segment, rest, rfl, hreplaced, hplace.1, hplace.2⟩
      · refine ⟨segment :: before, kept, after, rfl, hkept, ?_, ?_⟩
        all_goals
          rw [List.flatMap_cons, List.length_append]
          omega
    · rintro ⟨before, kept, after, hcuts, hkept, hfrom, hto⟩
      rcases before with - | ⟨first, before⟩
      · obtain ⟨rfl, rfl⟩ := List.cons.inj hcuts
        left
        rw [if_neg hkept, List.mem_range'_1]
        exact ⟨hfrom, hto⟩
      · obtain ⟨rfl, rfl⟩ := List.cons.inj hcuts
        rw [List.flatMap_cons, List.length_append] at hfrom hto
        exact .inr ⟨before, kept, after, rfl, hkept, by omega, by omega⟩

end Segment

/-- The bound text, each character with the place in the SQL text from which it has been
copied.  The characters of values come from no place. -/
def HostEnv.trace (env : HostEnv) (sql : String) : List (Option Nat × Char) :=
  Segment.trace env 0 (segments sql)

/-! ### The scan for quotes -/

/-- A scan for quotes that goes over traced characters from the given state is, at every
character with a place in `sql`, where a scan of `sql` is at that place. -/
def Follows (sql : List Char) : QuoteState → List (Option Nat × Char) → Prop
  | _, [] => True
  | state, (none, c) :: rest => Follows sql (state.next c) rest
  | state, (some place, c) :: rest =>
    sql[place]? = some c ∧ state = QuoteState.after none (sql.take place) ∧
      Follows sql (state.next c) rest

namespace Follows

variable {sql : List Char} {state : QuoteState}

theorem append_iff (first second : List (Option Nat × Char)) :
    Follows sql state (first ++ second) ↔
      Follows sql state first ∧ Follows sql (state.after (first.map Prod.snd)) second := by
  induction first generalizing state with
  | nil => exact ⟨fun h => ⟨trivial, h⟩, fun h => h.2⟩
  | cons traced first ih =>
    rcases traced with ⟨- | place, c⟩
    · exact ih
    · rw [List.cons_append, Follows, Follows, ih, and_assoc, and_assoc]
      rfl

/-- What has been inserted is only passed over. -/
theorem inserted (s : List Char) :
    Follows sql state (s.map fun c => (none, c)) := by
  induction s generalizing state with
  | nil => trivial
  | cons c s ih => exact ih

/-- What stands in `sql` is followed from the state in front of it. -/
theorem placed (before s after : List Char) :
    Follows (before ++ (s ++ after)) (QuoteState.after none before)
      (placed before.length s) := by
  induction s generalizing before with
  | nil => trivial
  | cons c s ih =>
    have hrest := ih (before ++ [c])
    rw [List.length_append, List.length_singleton, QuoteState.after_append, List.append_assoc]
      at hrest
    refine ⟨?_, ?_, hrest⟩
    · rw [List.getElem?_append_right (Nat.le_refl _), Nat.sub_self]
      rfl
    · rw [List.take_left]

theorem of_mem {first : List (Option Nat × Char)} {place : Nat} {c : Char}
    {second : List (Option Nat × Char)}
    (h : Follows sql state (first ++ (some place, c) :: second)) :
    sql[place]? = some c ∧
      state.after (first.map Prod.snd) = QuoteState.after none (sql.take place) := by
  rw [append_iff] at h
  exact ⟨h.2.1, h.2.2.1⟩

end Follows

namespace Segment

variable (env : HostEnv)

/-- What the values of the references in a text have to be, so that they stay in their
places: self-contained, and not written without quotes. -/
structure Contained (cuts : List Segment) : Prop where
  values : ∀ name value, .reference name ∈ cuts → value? env name = some value →
    value.isSelfContained
  noPoint : ∀ before name after, cuts = before ++ .reference name :: after →
    (value? env name).isSome → (after.flatMap source).head? ≠ some '.'

variable {env}

theorem Contained.tail {segment : Segment} {rest : List Segment}
    (h : Contained env (segment :: rest)) : Contained env rest where
  values name value hname := h.values name value (List.mem_cons_of_mem _ hname)
  noPoint before name after hrest := h.noPoint (segment :: before) name after (by rw [hrest]; rfl)

/-- A value that stands for a reference closes its quotes. -/
theorem Contained.after_bound {segment : Segment} {rest : List Segment}
    (h : Contained env (segment :: rest)) (hreplaced : segment.isReplaced env) :
    QuoteState.after none (segment.bound env (rest.flatMap source).head?) = none := by
  cases segment with
  | reference name =>
    obtain ⟨value, hvalue⟩ := Option.isSome_iff_exists.mp hreplaced
    rw [bound, hvalue]
    dsimp only
    rw [if_neg (h.noPoint [] name rest rfl hreplaced)]
    exact value.after_toSql (h.values name value List.mem_cons_self hvalue)
  | quoted | plain => cases hreplaced

/-! ### Segments one by one -/

theorem after_quoted {quote : Char} {inside : List Char} (hquote : isQuote quote)
    (hinside : quote ∉ inside) :
    QuoteState.after none (quoted (quote :: inside ++ [quote])).source = none := by
  exact QuoteState.after_region hquote hinside []

theorem not_isQuote_of_inName {c : Char} (h : inName c) : ¬ isQuote c := by
  intro hquote
  rw [isQuote, Bool.or_eq_true, decide_eq_true_eq, decide_eq_true_eq] at hquote
  rcases hquote with rfl | rfl
  · exact absurd h (by decide)
  · exact absurd h (by decide)

theorem after_reference (s : List Char) :
    QuoteState.after none (reference (s.takeWhile inName)).source = none := by
  refine QuoteState.after_of_no_quote (List.forall_mem_cons.mpr ⟨by decide, fun c hc => ?_⟩)
  exact not_isQuote_of_inName (List.mem_takeWhile_imp hc)

/-- A segment is followed, and the rest is behind it if the segment closes its quotes. -/
theorem follows_cons {segment : Segment} {rest : List Segment} {before : List Char}
    (hbefore : QuoteState.after none before = none)
    (hcontained : Contained env (segment :: rest))
    (hrest : rest ≠ [] → QuoteState.after none segment.source = none ∧
      Follows ((before ++ segment.source) ++ rest.flatMap source) none
        (trace env (before ++ segment.source).length rest)) :
    Follows (before ++ (segment :: rest).flatMap source) none
      (trace env before.length (segment :: rest)) := by
  rw [trace, Follows.append_iff, List.flatMap_cons, traced]
  by_cases hreplaced : segment.isReplaced env
  · rw [if_pos hreplaced]
    refine ⟨.inserted _, ?_⟩
    have hbound := hcontained.after_bound hreplaced
    rw [List.map_map]
    show Follows _ (QuoteState.after none (List.map id _)) _
    rw [List.map_id, hbound]
    rcases rest with - | ⟨next, rest⟩
    · trivial
    · rw [← List.append_assoc, ← List.length_append]
      exact (hrest nofun).2
  · rw [if_neg hreplaced, map_snd_placed]
    have hsegment := Follows.placed before segment.source (rest.flatMap source)
    rw [hbefore] at hsegment
    refine ⟨hsegment, ?_⟩
    rcases rest with - | ⟨next, rest⟩
    · trivial
    · rw [(hrest nofun).1, ← List.append_assoc, ← List.length_append]
      exact (hrest nofun).2

/-- **A scan for quotes follows the text that has been cut.** -/
theorem follows_trace (behindReference : Bool) (s before : List Char)
    (hbefore : QuoteState.after none before = none)
    (hcontained : Contained env (cut behindReference s)) :
    Follows (before ++ (cut behindReference s).flatMap source) none
      (trace env before.length (cut behindReference s)) := by
  -- what stands in front of the rest grows by segments that close their quotes
  have hgrown {segment : Segment} (hsegment : QuoteState.after none segment.source = none)
      {before : List Char} (hbefore : QuoteState.after none before = none) :
      QuoteState.after none (before ++ segment.source) = none := by
    rw [QuoteState.after_append, hbefore, hsegment]
  fun_induction cut behindReference s generalizing before with
  | case1 => trivial
  | case2 _ c rest hquote inside behind hcut ih =>
    have hsegment := after_quoted hquote (Chars.not_mem_of_cutAt? hcut)
    exact follows_cons hbefore hcontained fun _ =>
      ⟨hsegment, ih _ (hgrown hsegment hbefore) hcontained.tail⟩
  | case3 _ c rest hquote hcut =>
    exact follows_cons hbefore hcontained fun hrest => absurd rfl hrest
  | case4 _ c rest hquote hcolon ih =>
    have hsegment := after_reference rest
    exact follows_cons hbefore hcontained fun _ =>
      ⟨hsegment, ih _ (hgrown hsegment hbefore) hcontained.tail⟩
  | case5 _ c rest hquote hcolon ih =>
    have hsegment : QuoteState.after none (plain c).source = none :=
      QuoteState.after_of_no_quote (List.forall_mem_singleton.mpr hquote)
    exact follows_cons hbefore hcontained fun _ =>
      ⟨hsegment, ih _ (hgrown hsegment hbefore) hcontained.tail⟩

end Segment

/-- **Values stay in their places.**  Two environments in which the same references of an
SQL text have values, self-contained ones that are not written without quotes, leave the
same characters where they are, namely those that belong to no such reference.  In either
bound text a scan for quotes is at each of them where it is at that character in the SQL
text, so the values do not change what is quoted. -/
theorem HostEnv.quotes_of_copied (env other : HostEnv) (sql : String)
    (hsame : ∀ name, .reference name ∈ segments sql →
      ((Segment.value? env name).isSome ↔ (Segment.value? other name).isSome))
    (hvalues : ∀ name value, .reference name ∈ segments sql →
      Segment.value? env name = some value ∨ Segment.value? other name = some value →
      value.isSelfContained)
    (hpoint : ∀ before name after, segments sql = before ++ .reference name :: after →
      (Segment.value? env name).isSome → (after.flatMap Segment.source).head? ≠ some '.') :
    (env.trace sql).filterMap Prod.fst = (other.trace sql).filterMap Prod.fst ∧
      ∀ either, either = env ∨ either = other →
        (either.trace sql).map Prod.snd = (either.bind sql).toList ∧
          (∀ place, place ∈ (either.trace sql).filterMap Prod.fst ↔
            ∃ before segment after, segments sql = before ++ segment :: after ∧
              ¬ segment.isReplaced either ∧
              (before.flatMap Segment.source).length ≤ place ∧
              place < (before.flatMap Segment.source).length + segment.source.length) ∧
          ∀ before place c after, either.trace sql = before ++ (some place, c) :: after →
            sql.toList[place]? = some c ∧
              QuoteState.after none (before.map Prod.snd) =
                QuoteState.after none (sql.toList.take place) := by
  have hreplaced : ∀ segment ∈ segments sql, segment.isReplaced env = segment.isReplaced other := by
    intro segment hsegment
    cases segment with
    | reference name => exact Bool.eq_iff_iff.mpr (hsame name hsegment)
    | quoted | plain => rfl
  refine ⟨Segment.filterMap_fst_trace_congr hreplaced 0, fun either heither => ?_⟩
  have hcontained : Segment.Contained either (segments sql) := by
    rcases heither with rfl | rfl
    · exact ⟨fun name value hname hvalue => hvalues name value hname (.inl hvalue), hpoint⟩
    · refine ⟨fun name value hname hvalue => hvalues name value hname (.inr hvalue), ?_⟩
      intro before name after hcuts hsome
      exact hpoint before name after hcuts
        ((hsame name (hcuts ▸ List.mem_append_right _ List.mem_cons_self)).mpr hsome)
  refine ⟨?_, fun place => ?_, ?_⟩
  · rw [either.toList_bind]
    exact Segment.map_snd_trace either 0 (segments sql)
  · have hplaces : place ∈ (either.trace sql).filterMap Prod.fst ↔ _ :=
      Segment.mem_filterMap_fst_trace either
    simpa only [Nat.zero_add] using hplaces
  · intro before place c after htrace
    have hfollows := Segment.follows_trace false sql.toList [] rfl hcontained
    rw [List.nil_append, Segment.flatMap_source_cut] at hfollows
    have htrace' : Segment.trace either 0 (Segment.cut false sql.toList) =
        before ++ (some place, c) :: after := htrace
    rw [List.length_nil, htrace'] at hfollows
    exact hfollows.of_mem

/-- A text with an apostrophe. -/
def apostrophe : HostEnv :=
  .single "x" (.text "it's")

/-- A list with an apostrophe. -/
def listedApostrophe : HostEnv :=
  .single "x" (.list [.text "'", .integer 3])

theorem HostEnv.quotes_of_copied_apostrophe :
    (∀ name, .reference name ∈ segments ":x':x'" →
        ((Segment.value? apostrophe name).isSome ↔
          (Segment.value? listedApostrophe name).isSome)) ∧
      (apostrophe.trace ":x':x'").filterMap Prod.fst =
        (listedApostrophe.trace ":x':x'").filterMap Prod.fst ∧
      ∀ before place c after, apostrophe.trace ":x':x'" = before ++ (some place, c) :: after →
        QuoteState.after none (before.map Prod.snd) =
          QuoteState.after none (":x':x'".toList.take place) := by
  have hcuts : segments ":x':x'" = [.reference ['x'], .quoted "':x'".toList] := by
    decide +kernel
  have hname {name : List Char} (h : .reference name ∈ segments ":x':x'") : name = ['x'] := by
    rw [hcuts] at h
    simpa using h
  have hsame : ∀ name, .reference name ∈ segments ":x':x'" →
      ((Segment.value? apostrophe name).isSome ↔
        (Segment.value? listedApostrophe name).isSome) := by
    intro name h
    rw [hname h]
    decide
  have hvalues : ∀ name value, .reference name ∈ segments ":x':x'" →
      Segment.value? apostrophe name = some value ∨
        Segment.value? listedApostrophe name = some value → value.isSelfContained := by
    intro name value h
    rw [hname h]
    rintro (hvalue | hvalue)
    · obtain rfl : HostValue.text "it's" = value := Option.some.inj hvalue
      rfl
    · obtain rfl : HostValue.list [.text "'", .integer 3] = value := Option.some.inj hvalue
      rfl
  have hpoint : ∀ before name after, segments ":x':x'" = before ++ .reference name :: after →
      (Segment.value? apostrophe name).isSome →
      (after.flatMap Segment.source).head? ≠ some '.' := by
    intro before name after h _
    rw [hcuts] at h
    -- the one reference stands in front of the quoted region
    rcases before with - | ⟨first, - | ⟨second, before⟩⟩
    · obtain rfl := (List.cons.inj h).2
      decide
    · cases h
    · simp at h
  obtain ⟨hplaces, hboth⟩ :=
    HostEnv.quotes_of_copied apostrophe listedApostrophe ":x':x'" hsame hvalues hpoint
  exact ⟨hsame, hplaces, fun before place c after htrace =>
    ((hboth apostrophe (.inl rfl)).2.2 before place c after htrace).2⟩

/-- The quote behind the value opens a region, as it does behind the reference. -/
example : apostrophe.bind ":x':x'" = "'it''s'':x'" := by
  decide +kernel

end SqlNotebook
