/-
SqlNotebook/Proofs/Placeholder/Joined.lean

Placeholders that join numbered variables.  They count upwards, with no bound, until a number
has no value:

    {*n}   is   the values of n, n + 1, …, n + k - 1 with spaces between them,
    {,n}   is   the same with commas,

where `k` is the least number such that `n + k` has no value.  There always is one, since
different numbers have different names: at most as many numbers in a row have a value as there
are variables (`exists_isLeast_gap`).  So the count ends, and the values that it goes through
(`CountsUp`) are those that a placeholder is expanded to.  In a scope that starts with the tokens
of a call, these are the tokens from number `n` on (`expand_join`).
-/
import Mathlib.Data.Nat.Find
import Mathlib.Order.Bounds.Basic
import SqlNotebook.Proofs.Macro.Numbered

namespace SqlNotebook

/-! ### Numbers in a row -/

namespace Scope

variable {scope : Scope} {n k : Nat} {values : List String}

/-- In front of the first gap, every number has a value. -/
theorem isSome_of_lt_gap (hleast : IsLeast {k | scope.get? (toString (n + k)) = none} k) :
    ∀ i < k, (scope.get? (toString (n + i))).isSome := by
  intro i hi
  rw [Option.isSome_iff_ne_none]
  exact fun hgap => absurd (hleast.2 hgap) (Nat.not_le_of_lt hi)

/-- Somewhere behind a number there is one without a value, and the first such number is at most
as far away as there are variables. -/
theorem exists_isLeast_gap (scope : Scope) (n : Nat) :
    ∃ k ≤ scope.size, IsLeast {k | scope.get? (toString (n + k)) = none} k := by
  have hgap : ∃ k, scope.get? (toString (n + k)) = none := by
    -- otherwise there would be more numbers with a value than variables
    by_contra hnone
    have hvalues (i : Nat) : (scope.get? (toString (n + i))).isSome :=
      Option.isSome_iff_ne_none.mpr fun h => hnone ⟨i, h⟩
    exact absurd (length_le_size (k := scope.size + 1) fun i _ => hvalues i) (by omega)
  have hleast : IsLeast {k | scope.get? (toString (n + k)) = none} (Nat.find hgap) :=
    ⟨Nat.find_spec hgap, fun k hk => Nat.find_min' hgap hk⟩
  exact ⟨Nat.find hgap, length_le_size (isSome_of_lt_gap hleast), hleast⟩

/-- Numbers in a row that all have a value have a list of values. -/
theorem exists_values (h : ∀ i < k, (scope.get? (toString (n + i))).isSome) :
    ∃ values : List String,
      values.map some = (List.range k).map fun i => scope.get? (toString (n + i)) := by
  induction k with
  | zero => exact ⟨[], rfl⟩
  | succ k ih =>
    obtain ⟨values, hvalues⟩ := ih fun i hi => h i (Nat.lt_succ_of_lt hi)
    obtain ⟨value, hvalue⟩ := Option.isSome_iff_exists.mp (h k (Nat.lt_succ_self k))
    refine ⟨values ++ [value], ?_⟩
    rw [List.map_append, hvalues, List.range_succ, List.map_append, List.map_singleton,
      List.map_singleton, hvalue]

/-- The values up to a number without one, by their places. -/
theorem get?_of_values (hgap : scope.get? (toString (n + k)) = none)
    (hvalues : values.map some = (List.range k).map fun i => scope.get? (toString (n + i))) :
    ∀ i ≤ values.length, scope.get? (toString (n + i)) = values[i]? := by
  have hlength : values.length = k := by simpa using congrArg List.length hvalues
  intro i hi
  rcases Nat.lt_or_eq_of_le hi with hlt | rfl
  · have hplace := congrArg (·[i]?) hvalues
    simp only [List.getElem?_map, List.getElem?_range (hlength ▸ hlt), Option.map_some,
      List.getElem?_eq_getElem hlt] at hplace
    rw [List.getElem?_eq_getElem hlt]
    exact (Option.some.inj hplace).symm
  · rw [hlength, hgap, ← hlength, List.getElem?_length]

end Scope

namespace Placeholder

/-! ### Counting without a bound -/

/-- Counting upwards from a number ends, and goes through the given values: up to the first number
without a value, however many there are. -/
inductive CountsUp (scope : Scope) : (n : UInt64) → (values : List String) → Prop
  | stop {n : UInt64} (h : scope.get? (toString n.toNat) = none) : CountsUp scope n []
  | go {n : UInt64} {value : String} {rest : List String}
      (h : scope.get? (toString n.toNat) = some value) (hrest : CountsUp scope (n + 1) rest) :
      CountsUp scope n (value :: rest)

variable {scope : Scope} {limit : Nat} {n : UInt64} {values : List String}

/-- A count that stays below its limit has ended by itself. -/
theorem countsUp_numberedRun (h : (numberedRun scope limit n).length < limit) :
    CountsUp scope n (numberedRun scope limit n) := by
  induction limit generalizing n with
  | zero => cases h
  | succ limit ih =>
    rw [numberedRun] at h ⊢
    rcases hvalue : scope.get? (toString n.toNat) with - | value
    · exact .stop hvalue
    · rw [hvalue] at h
      exact .go hvalue (ih (Nat.lt_of_succ_lt_succ h))

/-- A count that ends within its limit does not notice it. -/
theorem CountsUp.numberedRun_eq (h : CountsUp scope n values) (hlimit : values.length ≤ limit) :
    numberedRun scope limit n = values := by
  induction h generalizing limit with
  | stop h =>
    cases limit with
    | zero => rfl
    | succ limit => rw [numberedRun, h]
  | go h hrest ih =>
    cases limit with
    | zero => cases hlimit
    | succ limit => rw [numberedRun, h, ih (Nat.le_of_succ_le_succ hlimit)]

/-- Counting goes through at most one list of values. -/
theorem CountsUp.unique {other : List String} (h : CountsUp scope n values)
    (hother : CountsUp scope n other) : other = values := by
  have hvalues := h.numberedRun_eq (Nat.le_max_left values.length other.length)
  have hsame := hother.numberedRun_eq (Nat.le_max_right values.length other.length)
  exact hsame.symm.trans hvalues

theorem countsUp_of_values {n : Nat}
    (hvalues : ∀ i ≤ values.length, scope.get? (toString (n + i)) = values[i]?)
    (hn : n + values.length < UInt64.size) : CountsUp scope (UInt64.ofNat n) values := by
  have hrun : numberedRun scope (values.length + 1) (UInt64.ofNat n) = values :=
    numberedRun_eq hvalues hn (Nat.le_succ _)
  have hcounts : CountsUp scope (UInt64.ofNat n)
      (numberedRun scope (values.length + 1) (UInt64.ofNat n)) := by
    apply countsUp_numberedRun
    rw [hrun]
    exact Nat.lt_succ_self _
  rwa [hrun] at hcounts

/-! ### Placeholders -/

/-- The two ways to join values. -/
inductive Join
  | spaced
  | listed
deriving DecidableEq, Repr

/-- What stands between the values. -/
def Join.separator : Join → String
  | spaced => " "
  | listed => ","

/-- The sign that asks for it. -/
def Join.sign : Join → Char
  | spaced => '*'
  | listed => ','

/-- The placeholder that joins the values from number `n` on. -/
def Join.placeholder (join : Join) (n : Nat) : String :=
  String.ofList ('{' :: join.sign :: ((toString n).toList ++ ['}']))

variable (join : Join) (n : Nat)

/-- Between the braces there are the sign and digits. -/
theorem eq_sign_or_isDigit {c : Char} (h : c ∈ join.sign :: (toString n).toList) :
    c = join.sign ∨ c.isDigit := by
  rw [List.mem_cons] at h
  exact h.imp_right isDigit_of_mem_toString

theorem expandBraces_join :
    expandBraces scope (join.sign :: (toString n).toList) =
      (Request.joined join.separator (toString n)).expand scope := by
  have hblank : ∀ c ∈ join.sign :: (toString n).toList, ¬ Chars.isBlank c := by
    intro c hc
    rcases eq_sign_or_isDigit join n hc with rfl | hdigit
    · cases join <;> decide
    · exact Chars.not_isBlank_of_isDigit hdigit
  obtain ⟨c, rest, hcons⟩ := List.exists_cons_of_ne_nil (Nat.toDigits_ne_nil (n := n) (b := 10))
  have hdigits : (toString n).toList = c :: rest := by
    rw [Nat.toString_eq_repr, Nat.toList_repr, hcons]
  have hrequest : Request.ofChars (join.sign :: c :: rest) =
      .joined join.separator (String.ofList (c :: rest)) := by
    cases join <;> rfl
  rw [expandBraces, Chars.trim_of_not_isBlank hblank, hdigits]
  show (Request.ofChars (join.sign :: c :: rest)).expand scope = _
  rw [hrequest, ← hdigits, String.ofList_toList]

theorem expand?_join :
    expand? scope (join.placeholder n) =
      (Request.joined join.separator (toString n)).expand scope := by
  have hbrace : '}' ∉ join.sign :: (toString n).toList := by
    intro hmem
    rcases eq_sign_or_isDigit join n hmem with hsign | hdigit
    · cases join <;> cases hsign
    · cases hdigit
  rw [expand?, Join.placeholder, String.toList_ofList, ← List.cons_append, expandChars, if_pos rfl,
    expandChars_pending scope [] hbrace, List.nil_append, expandBraces_join]
  rcases (Request.joined join.separator (toString n)).expand scope with fault | value
  · rfl
  · show Except.ok (String.ofList (value.toList ++ [])) = Except.ok value
    rw [List.append_nil, String.ofList_toList]

/-- **Joins find every value up to the first gap.**  For a number `n` that leaves room for as many
more as there are variables, there is a least number `n + k` without a value, and `k` is at most
the number of variables.  Counting upwards from `n`, with no bound, ends and goes through the
values of `n` to `n + k - 1`, and these are what the placeholder joins; it is empty if `n` itself
has no value.  Where the variables are the tokens of a call, a placeholder with the number of a
token joins this token and all behind it. -/
theorem expand_join :
    (∀ (join : Join) (scope : Scope) (n : Nat), n + scope.size < UInt64.size →
      (scope.get? (toString n) = none → expand? scope (join.placeholder n) = .ok "") ∧
      ∃ k values, IsLeast {k | scope.get? (toString (n + k)) = none} k ∧ k ≤ scope.size ∧
        values.map some = (List.range k).map (fun i => scope.get? (toString (n + i))) ∧
        (∀ counted, CountsUp scope (UInt64.ofNat n) counted ↔ counted = values) ∧
        expand? scope (join.placeholder n) = .ok (Text.join join.separator values)) ∧
    ∀ (join : Join) (tokens : List String) (n : Nat),
      tokens.length < UInt64.size → n < tokens.length →
      expand? (Scope.ofTokens tokens) (join.placeholder n) =
        .ok (Text.join join.separator (tokens.drop n)) := by
  refine ⟨fun join scope n hn => ⟨fun hnone => ?_, ?_⟩, fun join tokens n htokens hn => ?_⟩
  · rw [expand?_join, Request.expand, Dictionary.contains, hnone]
    rfl
  · obtain ⟨k, hk, hleast⟩ := scope.exists_isLeast_gap n
    obtain ⟨values, hvalues⟩ := Scope.exists_values (Scope.isSome_of_lt_gap hleast)
    have hplaces := Scope.get?_of_values hleast.1 hvalues
    have hbound : n + values.length < UInt64.size := by
      have hlength : values.length = k := by simpa using congrArg List.length hvalues
      omega
    have hcounts := countsUp_of_values hplaces hbound
    refine ⟨k, values, hleast, hk, hvalues, fun counted => ⟨hcounts.unique, ?_⟩, ?_⟩
    · rintro rfl
      exact hcounts
    · rw [expand?_join, expand_joined hplaces hbound]
  · have hplaces (i : Nat) (_ : i ≤ (tokens.drop n).length) :
        (Scope.ofTokens tokens).get? (toString (n + i)) = (tokens.drop n)[i]? := by
      rw [Scope.get?_ofTokens, List.getElem?_drop]
    have hbound : n + (tokens.drop n).length < UInt64.size := by
      rw [List.length_drop]
      omega
    rw [expand?_join, expand_joined hplaces hbound]

/-- Numbered variables with a gap between them. -/
def gappedValues : Scope :=
  ((Dictionary.empty.set "10" "d").set "8" "b").set "7" "a"

theorem expand_join_gappedValues :
    7 + gappedValues.size < UInt64.size ∧
      expand? gappedValues "\x7b,7\x7d" = .ok "a,b" ∧
      expand? gappedValues "\x7b,9\x7d" = .ok "" ∧
      expand? (Scope.ofTokens ["LIST", "TABLES", "FOR"]) "\x7b*1\x7d" = .ok "TABLES FOR" := by
  have hroom : 7 + gappedValues.size < UInt64.size := by decide
  obtain ⟨-, k, values, -, -, -, hcounts, hexpand⟩ := expand_join.1 .listed gappedValues 7 hroom
  have hvalues : ["a", "b"] = values := (hcounts _).mp (.go rfl (.go rfl (.stop rfl)))
  refine ⟨hroom, ?_, ?_, ?_⟩
  · rw [← hvalues] at hexpand
    exact hexpand
  · exact (expand_join.1 .listed gappedValues 9 (by decide)).1 rfl
  · exact expand_join.2 .spaced ["LIST", "TABLES", "FOR"] 1 (by decide) (by decide)

end Placeholder

end SqlNotebook
