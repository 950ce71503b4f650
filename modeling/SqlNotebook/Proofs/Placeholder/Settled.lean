/-
SqlNotebook/Proofs/Placeholder/Settled.lean

Nothing is left to expand.  A text is settled if no opening brace has a closing one anywhere
behind it, so that nothing in it is a placeholder (`Settled`).  As long as no value brings an
opening brace along, what a text expands to is settled:

    } {a} {^b} {c      is     } x Y {c      with a = x and b = y

The only opening braces that stay are those behind the last placeholder, and there is no closing
brace behind them.  A closing brace in a value therefore does no harm, and neither does upper
case, which turns no letter into a brace (`openBrace_notMem_upper`).  So expanding a text a second
time changes nothing, neither where it could be expanded nor where it could not
(`expand_expand`).
-/
import SqlNotebook.Proofs.Placeholder.Parts

namespace SqlNotebook

/-! ### Braces and upper case -/

namespace Text

/-- The upper-case letters of a run are all on one side of the opening brace. -/
theorem openBrace_notMem_caseRuns :
    ∀ run ∈ caseRuns, run.last + run.offset < '{'.toNat ∨ '{'.toNat < run.first + run.offset := by
  decide +kernel

theorem openBrace_notMem_caseExpansions : ∀ entry ∈ caseExpansions, '{'.toNat ∉ entry.2 := by
  decide

end Text

namespace Chars

theorem eq_toNat_of_ofNat_eq_openBrace {n : Nat} (h : Char.ofNat n = '{') : n = '{'.toNat := by
  by_cases hvalid : n.isValidChar
  · rw [Char.ofNat, dif_pos hvalid] at h
    exact congrArg Char.toNat h
  · rw [Char.ofNat, dif_neg hvalid] at h
    cases h

theorem openBrace_notMem_upperLetter {c : Char} (hc : c ≠ '{') : '{' ∉ upperLetter c := by
  intro hmem
  -- the letter is listed by itself, or belongs to a run, or stays as it is
  rw [upperLetter] at hmem
  split at hmem
  · next letters hlookup =>
    obtain ⟨before, behind, htable, -⟩ := List.lookup_eq_some_iff.mp hlookup
    have hentry : (c.toNat, letters) ∈ Text.caseExpansions := by simp [htable]
    obtain ⟨n, hn, hbrace⟩ := List.mem_map.mp hmem
    rw [eq_toNat_of_ofNat_eq_openBrace hbrace] at hn
    exact Text.openBrace_notMem_caseExpansions _ hentry hn
  · split at hmem
    · next run hfind =>
      have hside := Text.openBrace_notMem_caseRuns run (List.mem_of_find?_eq_some hfind)
      have hcovers : run.first ≤ c.toNat ∧ c.toNat ≤ run.last := by
        have hcovers := List.find?_some hfind
        simp only [Text.CaseRun.covers, Bool.and_eq_true, decide_eq_true_eq] at hcovers
        exact hcovers.1
      have hbrace := eq_toNat_of_ofNat_eq_openBrace (List.mem_singleton.mp hmem).symm
      have hcode : '{'.toNat = 123 := rfl
      omega
    · exact hc (List.mem_singleton.mp hmem).symm

/-- Upper case makes no opening brace. -/
theorem openBrace_notMem_upper {s : List Char} (h : '{' ∉ s) : '{' ∉ upper s := by
  intro hmem
  obtain ⟨c, hc, hletter⟩ := List.mem_flatMap.mp hmem
  exact openBrace_notMem_upperLetter (fun hbrace => h (hbrace ▸ hc)) hletter

end Chars

/-! ### Values without an opening brace -/

namespace Scope

/-- Whether no variable has a value with an opening brace in it. -/
def OpensNothing (scope : Scope) : Prop :=
  ∀ name value, scope.get? name = some value → '{' ∉ value.toList

theorem opensNothing_empty : OpensNothing Dictionary.empty := by
  intro name value h
  cases h

theorem OpensNothing.set {scope : Scope} {value : String} (h : scope.OpensNothing)
    (hvalue : '{' ∉ value.toList) (name : String) : OpensNothing (scope.set name value) := by
  intro other found hfound
  rw [Dictionary.get?_set] at hfound
  split at hfound
  · cases hfound
    exact hvalue
  · exact h other found hfound

end Scope

namespace Placeholder

variable {s t inner : List Char} {parts : List Part} {scope : Scope} {value : String}

theorem openBrace_notMem_numberedRun (hscope : scope.OpensNothing) {limit : Nat} {n : UInt64} :
    ∀ value ∈ numberedRun scope limit n, '{' ∉ value.toList := by
  induction limit generalizing n with
  | zero => exact nofun
  | succ limit ih =>
    rw [numberedRun]
    split
    · next first hfirst => exact List.forall_mem_cons.mpr ⟨hscope _ first hfirst, ih⟩
    · exact nofun

theorem openBrace_notMem_join {mark : Char} (hmark : mark ≠ '{') {values : List String}
    (hvalues : ∀ value ∈ values, '{' ∉ value.toList) :
    '{' ∉ (Text.join (String.singleton mark) values).toList := by
  intro hmem
  rw [Text.toList_join, String.toList_singleton] at hmem
  rcases Chars.mem_intercalate hmem with hbrace | ⟨part, hpart, hbrace⟩
  · exact hmark hbrace.symm
  · obtain ⟨value, hvalue, rfl⟩ := List.mem_map.mp hpart
    exact hvalues value hvalue hbrace

/-- The values of a join are joined by spaces or by commas. -/
theorem separator_of_ofChars {separator first : String}
    (h : Request.ofChars s = .joined separator first) :
    separator = String.singleton ' ' ∨ separator = String.singleton ',' := by
  rw [Request.ofChars.eq_def] at h
  split at h
  · cases h
  · cases h
    exact .inl rfl
  · cases h
    exact .inr rfl
  · cases h

/-- Where no value opens a brace, no placeholder brings one in. -/
theorem openBrace_notMem_expandBraces (hscope : scope.OpensNothing)
    (h : expandBraces scope inner = .ok value) : '{' ∉ value.toList := by
  have hunresolved : '{' ∉ unresolved.toList := by decide
  rw [expandBraces] at h
  split at h
  · cases h
  · rcases hrequest : Request.ofChars (Chars.trim inner) with name | name | ⟨separator, first⟩
    · rw [hrequest] at h
      cases h
      rcases hvalue : scope.get? name with - | found
      · exact hunresolved
      · exact hscope name found hvalue
    · rw [hrequest] at h
      cases h
      rcases hvalue : scope.get? name with - | found
      · exact hunresolved
      · rw [Option.map_some, Option.getD_some, Text.toList_upper]
        exact Chars.openBrace_notMem_upper (hscope name found hvalue)
    · rw [hrequest, Request.expand] at h
      split at h
      · split at h
        · cases h
          rcases separator_of_ofChars hrequest with rfl | rfl
          · exact openBrace_notMem_join (by decide) (openBrace_notMem_numberedRun hscope)
          · exact openBrace_notMem_join (by decide) (openBrace_notMem_numberedRun hscope)
        · cases h
      · cases h
        exact List.not_mem_nil

/-! ### Settled texts -/

/-- Text without an opening brace leaves what is behind it as it is. -/
theorem Settled.append (hs : '{' ∉ s) (ht : Settled t) : Settled (s ++ t) := by
  intro before behind happend
  -- the opening brace stands in `t`, since there is none in `s`
  rcases List.append_eq_append_iff.mp happend with
    ⟨between, -, hrest⟩ | ⟨between, hfront, hrest⟩
  · exact ht between behind hrest
  · rcases between with - | ⟨c, between⟩
    · exact ht [] behind hrest.symm
    · rw [List.cons_append] at hrest
      rw [hfront, ← (List.cons.inj hrest).1] at hs
      exact absurd (List.mem_append_right before List.mem_cons_self) hs

/-- A settled text stays as it is, with any variables. -/
theorem Settled.expand?_eq {text : String} (h : Settled text.toList) (scope : Scope) :
    expand? scope text = .ok text := by
  rw [expand?, expandChars_copied h]
  simp [Except.map]

/-- What a text expands to is settled: in front of each placeholder there is no opening brace,
none comes out of it, and what is behind the last one is copied. -/
theorem PartsOf.settled (h : PartsOf s parts) (hscope : scope.OpensNothing)
    (ht : expandChars scope none s = .ok t) : Settled t := by
  induction h generalizing t with
  | copied hs =>
    rw [expandChars_copied hs] at ht
    cases ht
    exact hs
  | @braces before inner rest parts hbefore hinner hrest ih =>
    rw [expandChars_append scope hbefore, expandChars, if_pos rfl,
      expandChars_pending scope [] hinner, List.nil_append] at ht
    rcases hvalue : expandBraces scope inner with fault | value
    · rw [hvalue] at ht
      cases ht
    · rcases htail : expandChars scope none rest with fault | tail
      · rw [hvalue, htail] at ht
        cases ht
      · rw [hvalue, htail] at ht
        cases ht
        exact .append hbefore (.append (openBrace_notMem_expandBraces hscope hvalue) (ih htail))

theorem settled_of_expand? (hscope : scope.OpensNothing) {text expanded : String}
    (h : expand? scope text = .ok expanded) : Settled expanded.toList := by
  obtain ⟨parts, hparts⟩ := exists_partsOf text.toList
  rw [expand?] at h
  rcases hchars : expandChars scope none text.toList with fault | chars
  · rw [hchars] at h
    cases h
  · rw [hchars] at h
    cases h
    rw [String.toList_ofList]
    exact hparts.settled hscope hchars

/-- **Expanding leaves no placeholder behind.**  Where no value has an opening brace in it, what
a text expands to has no opening brace with a closing one anywhere behind it, so it stays as it
is with any variables; a text that cannot be expanded stays as it is altogether.  Either way,
expanding once more changes nothing. -/
theorem expand_expand (hscope : scope.OpensNothing) (text : String) :
    (∀ expanded, expand? scope text = .ok expanded →
        Settled expanded.toList ∧ ∀ other, expand? other expanded = .ok expanded) ∧
      (∀ fault, expand? scope text = .error fault → expand scope text = text) ∧
      expand scope (expand scope text) = expand scope text := by
  have hexpanded {expanded : String} (h : expand? scope text = .ok expanded) :
      Settled expanded.toList := settled_of_expand? hscope h
  have hkept {fault : Fault} (h : expand? scope text = .error fault) :
      expand scope text = text := by rw [expand, h]
  refine ⟨fun expanded h => ⟨hexpanded h, (hexpanded h).expand?_eq⟩, fun fault => hkept, ?_⟩
  rcases h : expand? scope text with fault | expanded
  · rw [hkept h, hkept h]
  · have hfirst : expand scope text = expanded := by rw [expand, h]
    rw [hfirst, expand, (hexpanded h).expand?_eq]

/-- Values with a closing brace and with a quote. -/
def closingValues : Scope :=
  (Dictionary.empty.set "a" "x\x7d").set "b" "it's"

theorem expand_expand_closingValues :
    closingValues.OpensNothing ∧
      expand? closingValues "\x7d \x7ba\x7d \x7b^b\x7d \x7bc" = .ok "\x7d x\x7d IT'S \x7bc" ∧
      Settled "\x7d x\x7d IT'S \x7bc".toList ∧
      expand closingValues (expand closingValues "\x7d \x7ba\x7d \x7b^b\x7d \x7bc") =
        expand closingValues "\x7d \x7ba\x7d \x7b^b\x7d \x7bc" := by
  have hvalues : closingValues.OpensNothing :=
    (Scope.opensNothing_empty.set (by decide) "a").set (by decide) "b"
  have hexpanded :
      expand? closingValues "\x7d \x7ba\x7d \x7b^b\x7d \x7bc" = .ok "\x7d x\x7d IT'S \x7bc" := by
    rfl
  obtain ⟨hsettled, -, hagain⟩ := expand_expand hvalues "\x7d \x7ba\x7d \x7b^b\x7d \x7bc"
  exact ⟨hvalues, hexpanded, (hsettled _ hexpanded).1, hagain⟩

end Placeholder

end SqlNotebook
