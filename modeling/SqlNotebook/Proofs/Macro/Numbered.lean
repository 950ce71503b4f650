/-
SqlNotebook/Proofs/Macro/Numbered.lean

The numbered variables of a macro call.  A scope that starts with the tokens of an
instruction has each of them under its number and nothing under any other number
(`get?_ofTokens`).  A placeholder that joins numbered variables finds the run of
values that starts at its number:

    {*n}   is   the values of n, n + 1, …, n + k - 1, joined,

where n + k is the first number without a value (`expand_joined`).  Numbers are
counted in machine words, so the run has to end below the greatest one; and since
different numbers have different names, a scope holds every run that it can be
asked for (`length_le_size`).
-/
import Mathlib.Data.List.Nodup
import Mathlib.Data.List.Perm.Subperm
import SqlNotebook.Placeholder
import SqlNotebook.Proofs.Text.Numerals

namespace SqlNotebook

namespace Scope

variable {scope : Scope}

/-! ### The tokens of a call -/

/-- A name with a character that is no digit is no numeral. -/
theorem toString_ne_of_not_isDigit (i : Nat) {name : String}
    (h : name.toList.all Char.isDigit = false) : toString i ≠ name := by
  rintro rfl
  obtain ⟨c, hc, hdigit⟩ := List.all_eq_false.mp h
  exact hdigit (isDigit_of_mem_toString hc)

theorem get?_addNumbered (scope : Scope) (n i : Nat) (tokens : List String) :
    (scope.addNumbered n tokens).get? (toString i) =
      (if n ≤ i then tokens[i - n]? else none).or (scope.get? (toString i)) := by
  induction tokens generalizing scope n with
  | nil => simp [addNumbered]
  | cons token rest ih =>
    simp only [addNumbered, ih, Dictionary.get?_set, toString_inj]
    rcases Nat.lt_trichotomy i n with hlt | rfl | hlt
    · simp [show ¬ n ≤ i by omega, show ¬ n + 1 ≤ i by omega, show i ≠ n by omega]
    · simp [show ¬ i + 1 ≤ i by omega]
    · obtain ⟨d, rfl⟩ := Nat.exists_eq_add_of_lt hlt
      simp [show n + 1 ≤ n + d + 1 by omega, show n ≤ n + d + 1 by omega,
        show n + d + 1 - (n + 1) = d by omega, show n + d + 1 - n = d + 1 by omega,
        show n + d + 1 ≠ n by omega]

/-- Each token of a call is under its number, and there is nothing under any other
number. -/
theorem get?_ofTokens (tokens : List String) (i : Nat) :
    (ofTokens tokens).get? (toString i) = tokens[i]? := by
  have hargc : toString i ≠ "argc" := toString_ne_of_not_isDigit i (by decide)
  rw [ofTokens, Dictionary.get?_set, if_neg hargc, get?_addNumbered]
  simp

theorem get?_argc_ofTokens (tokens : List String) :
    (ofTokens tokens).get? "argc" = some (toString (tokens.length - 1)) := by
  rw [ofTokens, Dictionary.get?_set, if_pos rfl]

/-! ### Arguments -/

/-- The scope of a call with the given arguments, perhaps with variables that the macro has
stored under names of its own. -/
structure OfArguments (scope : Scope) (arguments : List String) : Prop where
  count : scope.get? "argc" = some (toString arguments.length)
  numbered : ∀ i, scope.get? (toString (i + 1)) = arguments[i]?

theorem ofArguments_ofTokens (tokens : List String) :
    OfArguments (ofTokens tokens) tokens.tail where
  count := by rw [get?_argc_ofTokens, List.length_tail]
  numbered i := by rw [get?_ofTokens, List.getElem?_tail]

variable {arguments : List String}

theorem OfArguments.set (h : scope.OfArguments arguments) {name : String} (hargc : "argc" ≠ name)
    (hname : name.toList.all Char.isDigit = false) (value : String) :
    OfArguments (scope.set name value) arguments where
  count := by rw [Dictionary.get?_set, if_neg hargc, h.count]
  numbered i := by
    rw [Dictionary.get?_set, if_neg (toString_ne_of_not_isDigit (i + 1) hname), h.numbered]

/-! ### Runs of numbers -/

/-- There are at most as many numbers in a row with a value as there are variables. -/
theorem length_le_size {n k : Nat} (h : ∀ i < k, (scope.get? (toString (n + i))).isSome) :
    k ≤ scope.size := by
  let numerals := (List.range k).map fun i => toString (n + i)
  have hdistinct : numerals.Nodup := by
    refine List.Nodup.map_on ?_ List.nodup_range
    intro i _ j _ hij
    exact Nat.add_left_cancel (toString_inj.1 hij)
  have hnames : numerals ⊆ scope.entries.map Prod.fst := by
    intro name hname
    obtain ⟨i, hi, rfl⟩ := List.mem_map.1 hname
    obtain ⟨value, hvalue⟩ := Option.isSome_iff_exists.1 (h i (List.mem_range.1 hi))
    obtain ⟨before, after, hentries, -⟩ := List.lookup_eq_some_iff.1 hvalue
    simp [hentries]
  simpa [numerals, Dictionary.size] using (hdistinct.subperm hnames).length_le

end Scope

namespace Placeholder

variable {scope : Scope} {arguments values : List String} {n : Nat}

/-- What the placeholder of an argument in upper case stands for. -/
def upperArgument (arguments : List String) (n : Nat) : String :=
  (arguments.map Text.upper)[n]?.getD unresolved

/-- An argument that is not `null` is known from its placeholder. -/
theorem upperArgument_eq_iff {n : Nat} {text : String} (h : text ≠ unresolved) :
    upperArgument arguments n = text ↔ (arguments.map Text.upper)[n]? = some text := by
  rw [upperArgument]
  rcases (arguments.map Text.upper)[n]? with - | value
  · simpa using h.symm
  · simp

theorem expandBraces_upper (h : scope.OfArguments arguments) (n : Nat) {inner : List Char}
    (hrequest : expandBraces scope inner = (Request.upperValue (toString (n + 1))).expand scope) :
    expandBraces scope inner = .ok (upperArgument arguments n) := by
  rw [hrequest, Request.expand, h.numbered, upperArgument, List.getElem?_map]

/-- A text that is the placeholder of an argument in upper case. -/
theorem expand_upper (h : scope.OfArguments arguments) (n : Nat) {text : String}
    (inner : List Char) (htext : text.toList = '{' :: (inner ++ ['}'])) (hinner : '}' ∉ inner)
    (hrequest : expandBraces scope inner = (Request.upperValue (toString (n + 1))).expand scope) :
    expand scope text = upperArgument arguments n :=
  expand_of_request scope htext hinner (expandBraces_upper h n hrequest)

theorem numberedRun_eq (hvalues : ∀ i ≤ values.length, scope.get? (toString (n + i)) = values[i]?)
    (hn : n + values.length < UInt64.size) {limit : Nat} (hlimit : values.length ≤ limit) :
    numberedRun scope limit (UInt64.ofNat n) = values := by
  induction values generalizing n limit with
  | nil =>
    have hend := hvalues 0 (Nat.le_refl 0)
    cases limit with
    | zero => rfl
    | succ limit =>
      have hword : (UInt64.ofNat n).toNat = n := UInt64.toNat_ofNat_of_lt' (by simpa using hn)
      rw [numberedRun, hword]
      simp_all
  | cons value rest ih =>
    obtain ⟨limit, rfl⟩ : ∃ smaller, limit = smaller + 1 :=
      ⟨limit - 1, by have := hlimit; simp at this; omega⟩
    have hbound : n + (rest.length + 1) < UInt64.size := hn
    have hword : (UInt64.ofNat n).toNat = n := UInt64.toNat_ofNat_of_lt' (by omega)
    have hfirst : scope.get? (toString n) = some value := by simpa using hvalues 0 (Nat.zero_le _)
    have hrest (i : Nat) (hi : i ≤ rest.length) :
        scope.get? (toString (n + 1 + i)) = rest[i]? := by
      have hnext := hvalues (i + 1) (Nat.succ_le_succ hi)
      rwa [← Nat.add_assoc, Nat.add_right_comm, List.getElem?_cons_succ] at hnext
    have hsucc : UInt64.ofNat n + 1 = UInt64.ofNat (n + 1) := by
      rw [UInt64.ofNat_add]
      rfl
    rw [numberedRun, hword, hfirst, hsucc, ih hrest (by omega) (Nat.le_of_succ_le_succ hlimit)]

/-- **A join finds the run of values that starts at its number.** -/
theorem expand_joined (hvalues : ∀ i ≤ values.length, scope.get? (toString (n + i)) = values[i]?)
    (hn : n + values.length < UInt64.size) (separator : String) :
    (Request.joined separator (toString n)).expand scope = .ok (Text.join separator values) := by
  have hfirst : scope.get? (toString n) = values[0]? := hvalues 0 (Nat.zero_le _)
  rw [Request.expand, Dictionary.contains, hfirst]
  cases values with
  | nil => simp [Text.join]
  | cons value rest =>
    have hsize : (value :: rest).length ≤ scope.size := by
      refine Scope.length_le_size (n := n) fun i hi => ?_
      rw [hvalues i (Nat.le_of_lt hi), List.getElem?_eq_getElem hi]
      rfl
    rw [Numeral.word?_toString (by omega)]
    simp [numberedRun_eq hvalues hn hsize]

/-- A join from the first token of a call on finds all of its tokens. -/
theorem expand_joined_ofTokens {tokens : List String} (h : tokens.length < UInt64.size)
    (separator : String) :
    (Request.joined separator (toString 0)).expand (Scope.ofTokens tokens) =
      .ok (Text.join separator tokens) := by
  refine expand_joined (fun i _ => ?_) (by rwa [Nat.zero_add]) separator
  rw [Nat.zero_add, Scope.get?_ofTokens]

end Placeholder

end SqlNotebook
