/-
SqlNotebook/Proofs/Placeholder/Parts.lean

Expanding a text part by part.  The placeholders of a text are found from left to right, each
from an opening brace to the next closing one, and whatever stands outside of them is copied:

    x{a}-{b{c} }{d        is     x,  {a},  -,  {b{c},   }{d

Which parts these are does not depend on any variable (`PartsOf`), and there is one way only to
take a text apart (`PartsOf.unique`).  Expanding the text is expanding each of the parts by
itself (`expandChars_of_parts`); a value that has been inserted is not looked at again, and never
makes a placeholder together with the text around it.

So a text in which no brace is left open can be expanded in front of any other text without
looking at it (`expand_append`).
-/
import SqlNotebook.Placeholder
import SqlNotebook.Text.Pieces

namespace SqlNotebook.Placeholder

variable {s t before inner behind rest : List Char} {scope : Scope} {pending : Option (List Char)}

/-- Every opening brace of a text has a closing brace behind it. -/
def BracesClosed (s : List Char) : Prop :=
  ∀ before behind, s = before ++ '{' :: behind → '}' ∈ behind

/-- Nothing in a text is a placeholder: no opening brace has a closing one anywhere behind it. -/
def Settled (s : List Char) : Prop :=
  ∀ before behind, s = before ++ '{' :: behind → '}' ∉ behind

/-! ### Texts in front of one another -/

theorem bracesClosed_nil : BracesClosed [] := by
  intro before behind h
  cases before <;> cases h

theorem bracesClosed_cons_iff {c : Char} :
    BracesClosed (c :: s) ↔ (c = '{' → '}' ∈ s) ∧ BracesClosed s := by
  constructor
  · intro h
    refine ⟨?_, fun before behind hs => h (c :: before) behind (by rw [hs, List.cons_append])⟩
    rintro rfl
    exact h [] s rfl
  · rintro ⟨hfirst, hrest⟩ before behind hs
    cases before with
    | nil =>
      obtain ⟨rfl, rfl⟩ := List.cons.inj hs
      exact hfirst rfl
    | cons d before => exact hrest before behind (List.cons.inj hs).2

instance decidableBracesClosed : DecidablePred BracesClosed
  | [] => isTrue bracesClosed_nil
  | _ :: s =>
    have := decidableBracesClosed s
    decidable_of_iff _ bracesClosed_cons_iff.symm

/-- A text that is read up to the end of its last placeholder is expanded by itself. -/
theorem expandChars_append_of_closed (hclosed : BracesClosed s)
    (hpending : pending.isSome → '}' ∈ s) (t : List Char) :
    expandChars scope pending (s ++ t) = do
      let expanded ← expandChars scope pending s
      let more ← expandChars scope none t
      return expanded ++ more := by
  -- a brace that is pending is closed in `s`, so the first text ends with none pending
  induction s generalizing pending with
  | nil =>
    cases pending with
    | none =>
      rw [List.nil_append]
      rcases expandChars scope none t with fault | more <;> rfl
    | some inner => cases hpending rfl
  | cons c s ih =>
    obtain ⟨hfirst, hrest⟩ := bracesClosed_cons_iff.mp hclosed
    have hbehind := @ih none hrest nofun
    cases pending with
    | none =>
      by_cases hc : c = '{'
      · rw [List.cons_append, expandChars, if_pos hc, expandChars, if_pos hc]
        exact ih hrest fun _ => hfirst hc
      · rw [List.cons_append, expandChars, if_neg hc, expandChars, if_neg hc, hbehind]
        rcases expandChars scope none s with fault | expanded
        · rfl
        · rcases expandChars scope none t with fault | more <;> rfl
    | some inner =>
      by_cases hc : c = '}'
      · rw [List.cons_append, expandChars, if_pos hc, expandChars, if_pos hc, hbehind]
        rcases expandBraces scope inner with fault | value
        · rfl
        · rcases expandChars scope none s with fault | expanded
          · rfl
          · rcases expandChars scope none t with fault | more
            · rfl
            · exact congrArg Except.ok (List.append_assoc value.toList expanded more).symm
      · have hbrace : '}' ∈ s := by simpa [Ne.symm hc] using hpending rfl
        rw [List.cons_append, expandChars, if_neg hc, expandChars, if_neg hc]
        exact ih hrest fun _ => hbrace

/-! ### Parts -/

/-- What a text consists of. -/
inductive Part
  /-- Text that is copied. -/
  | copied (text : List Char)
  /-- A placeholder with the given text between its braces. -/
  | braces (inner : List Char)

/-- The part as it is written. -/
def Part.source : Part → List Char
  | copied text => text
  | braces inner => '{' :: (inner ++ ['}'])

/-- What the part stands for. -/
def Part.expand (scope : Scope) : Part → Except Fault String
  | copied text => .ok (String.ofList text)
  | braces inner => expandBraces scope inner

/-- The parts of a text. -/
inductive PartsOf : List Char → List Part → Prop
  /-- There is no placeholder. -/
  | copied {s : List Char} (h : Settled s) : PartsOf s [.copied s]
  /-- The first placeholder is from the first opening brace to the next closing one. -/
  | braces {before inner rest : List Char} {parts : List Part} (hbefore : '{' ∉ before)
      (hinner : '}' ∉ inner) (hrest : PartsOf rest parts) :
      PartsOf (before ++ '{' :: (inner ++ '}' :: rest)) (.copied before :: .braces inner :: parts)

variable {parts other : List Part}

/-- The parts of a text make up the text. -/
theorem PartsOf.source (h : PartsOf s parts) : parts.flatMap Part.source = s := by
  induction h with
  | copied h => exact List.append_nil _
  | braces hbefore hinner hrest ih =>
    rw [List.flatMap_cons, List.flatMap_cons, ih]
    simp [Part.source]

/-- Behind any opening brace there is at most what is behind the first one. -/
theorem suffix_of_first {front more : List Char} (hbefore : '{' ∉ before)
    (h : before ++ '{' :: behind = front ++ '{' :: more) : more <:+ behind := by
  rcases List.append_eq_append_iff.mp h with ⟨between, -, hbetween⟩ | ⟨between, hfront, hbetween⟩
  · rcases between with - | ⟨c, between⟩
    · exact ⟨[], (List.cons.inj hbetween).2.symm⟩
    · rw [(List.cons.inj hbetween).2]
      exact ⟨between ++ ['{'], by simp⟩
  · rcases between with - | ⟨c, between⟩
    · exact ⟨[], (List.cons.inj hbetween).2⟩
    · rw [hfront, ← (List.cons.inj hbetween).1] at hbefore
      exact absurd (List.mem_append_right front List.mem_cons_self) hbefore

/-- A text can be taken apart. -/
theorem exists_partsOf (s : List Char) : ∃ parts, PartsOf s parts := by
  -- what is behind the first placeholder is shorter
  induction hlength : s.length using Nat.strongRecOn generalizing s with
  | ind length ih =>
    rcases hopen : Chars.cutAt? '{' s with - | ⟨before, behind⟩
    · refine ⟨_, .copied fun before behind hs => absurd ?_ (Chars.not_mem_of_cutAt?_eq_none hopen)⟩
      rw [hs]
      exact List.mem_append_right before List.mem_cons_self
    · have hs := Chars.eq_of_cutAt? hopen
      have hbefore := Chars.not_mem_of_cutAt? hopen
      rcases hclose : Chars.cutAt? '}' behind with - | ⟨inner, rest⟩
      · refine ⟨_, .copied fun front more hfront hmem => ?_⟩
        have hmore := suffix_of_first hbefore (hs.symm.trans hfront)
        exact Chars.not_mem_of_cutAt?_eq_none hclose (hmore.subset hmem)
      · have hshort : rest.length < length := by
          have hfirst := Chars.length_of_cutAt? hopen
          have hsecond := Chars.length_of_cutAt? hclose
          omega
        obtain ⟨parts, hparts⟩ := ih rest.length hshort rest rfl
        rw [hs, Chars.eq_of_cutAt? hclose]
        exact ⟨_, .braces hbefore (Chars.not_mem_of_cutAt? hclose) hparts⟩

/-- There is one way only to take a text apart. -/
theorem PartsOf.unique (h : PartsOf s parts) (hother : PartsOf s other) : parts = other := by
  induction h generalizing other with
  | @copied s h =>
    cases hother with
    | copied => rfl
    | braces => exact absurd (List.mem_append_right _ List.mem_cons_self) (h _ _ rfl)
  | @braces before inner rest parts hbefore hinner hrest ih =>
    generalize hs : before ++ '{' :: (inner ++ '}' :: rest) = text at hother
    cases hother with
    | copied h => exact absurd (List.mem_append_right _ List.mem_cons_self) (h _ _ hs.symm)
    | @braces front middle behind parts hfront hmiddle hbehind =>
      have hfirst := congrArg (Chars.cutAt? '{') hs
      rw [Chars.cutAt?_of_not_mem _ hbefore, Chars.cutAt?_of_not_mem _ hfront] at hfirst
      obtain ⟨rfl, htail⟩ := Prod.mk.inj (Option.some.inj hfirst)
      have hsecond := congrArg (Chars.cutAt? '}') htail
      rw [Chars.cutAt?_of_not_mem _ hinner, Chars.cutAt?_of_not_mem _ hmiddle] at hsecond
      obtain ⟨rfl, rfl⟩ := Prod.mk.inj (Option.some.inj hsecond)
      rw [ih hbehind]

/-- Texts that close their braces are those that do so behind their first placeholder. -/
theorem bracesClosed_braces_iff :
    BracesClosed (before ++ '{' :: (inner ++ '}' :: rest)) ↔ BracesClosed rest := by
  have hjoin : before ++ '{' :: (inner ++ '}' :: rest) = (before ++ '{' :: (inner ++ ['}'])) ++ rest := by
    simp
  rw [hjoin]
  constructor
  · intro h front more hrest
    refine h ((before ++ '{' :: (inner ++ ['}'])) ++ front) more ?_
    rw [hrest]
    exact (List.append_assoc _ front _).symm
  · intro h front more hs
    rcases List.append_eq_append_iff.mp hs with ⟨between, rfl, hmore⟩ | ⟨between, hfirst, hmore⟩
    · exact h between more hmore
    · rcases List.eq_nil_or_concat between with rfl | ⟨between, c, rfl⟩
      · exact h [] more hmore.symm
      · -- the brace stands in front of the one that closes the placeholder
        rw [List.concat_eq_append] at hfirst hmore
        rw [← List.cons_append, ← List.append_assoc, ← List.append_assoc] at hfirst
        obtain ⟨-, hc⟩ := List.append_inj' hfirst rfl
        rw [← (List.cons.inj hc).1] at hmore
        rcases between with - | ⟨d, between⟩
        · exact absurd (List.cons.inj hmore).1 (by decide)
        · rw [(List.cons.inj hmore).2]
          simp

/-- Every opening brace has a closing one behind it exactly if none is left over by the
placeholders, each of which is from an opening brace to the next closing one. -/
theorem PartsOf.bracesClosed_iff (h : PartsOf s parts) :
    BracesClosed s ↔ ∀ last, parts.getLast? = some (.copied last) → '{' ∉ last := by
  induction h with
  | @copied s h =>
    constructor
    · rintro hclosed _ ⟨⟩ hbrace
      obtain ⟨before, behind, hs⟩ := List.append_of_mem hbrace
      exact h before behind hs (hclosed before behind hs)
    · rintro hnone before behind rfl
      exact absurd (List.mem_append_right before List.mem_cons_self) (hnone _ rfl)
  | @braces before inner rest parts hbefore hinner hrest ih =>
    have hne : parts ≠ [] := by cases hrest <;> exact List.cons_ne_nil _ _
    obtain ⟨part, parts, rfl⟩ := List.exists_cons_of_ne_nil hne
    rw [bracesClosed_braces_iff, ih, List.getLast?_cons_cons, List.getLast?_cons_cons]

/-! ### Expanding -/

/-- A brace that is never closed stays, with all that follows it. -/
theorem expandChars_unclosed (inner : List Char) (h : '}' ∉ s) :
    expandChars scope (some inner) s = .ok ('{' :: (inner ++ s)) := by
  induction s generalizing inner with
  | nil => rw [expandChars, List.append_nil]
  | cons c s ih =>
    rw [List.mem_cons, not_or] at h
    rw [expandChars, if_neg (Ne.symm h.1), ih _ h.2, List.append_assoc, List.singleton_append]

/-- A text without a placeholder is copied. -/
theorem expandChars_copied (h : Settled s) : expandChars scope none s = .ok s := by
  by_cases hbrace : '{' ∈ s
  · obtain ⟨before, behind, hs, hbefore⟩ := List.eq_append_cons_of_mem hbrace
    rw [hs, expandChars_append scope hbefore, expandChars, if_pos rfl,
      expandChars_unclosed [] (h before behind hs)]
    rfl
  · exact expandChars_of_not_mem scope hbrace

/-- **A text is expanded part by part.** -/
theorem expandChars_of_parts (h : PartsOf s parts) :
    (expandChars scope none s).map String.ofList =
      (parts.mapM (Part.expand scope)).map String.join := by
  induction h with
  | @copied s h =>
    have hpart : [Part.copied s].mapM (Part.expand scope) = .ok [String.ofList s] := rfl
    rw [expandChars_copied h, hpart]
    simp [Except.map]
  | @braces before inner rest parts hbefore hinner hrest ih =>
    rw [expandChars_append scope hbefore, expandChars, if_pos rfl,
      expandChars_pending scope [] hinner, List.nil_append, List.mapM_cons, List.mapM_cons,
      Part.expand, Part.expand]
    rcases expandBraces scope inner with fault | value
    · rfl
    · rcases htail : expandChars scope none rest with fault | tail <;>
        rcases hparts : parts.mapM (Part.expand scope) with other | values <;>
          rw [htail, hparts] at ih
      · cases ih
        rfl
      · cases ih
      · cases ih
      · have hvalues : String.ofList tail = String.join values := Except.ok.inj ih
        show Except.ok (String.ofList (before ++ (value.toList ++ tail))) =
          Except.ok (String.join (String.ofList before :: value :: values))
        rw [String.join_cons, String.join_cons, ← hvalues, String.ofList_append,
          String.ofList_append, String.ofList_toList]

/-- **Expanding is compositional.**  A text whose opening braces all have a closing one behind
them is expanded by itself, whatever follows it: the fault is the first one, and without a fault
the results stand behind one another.  And there is one way only to see the parts of a text,
with any variables: placeholders, each from an opening brace to the next closing one, and what is
copied; the text is expanded by expanding each of them by itself. -/
theorem expand_append :
    (∀ front rest : String, BracesClosed front.toList → ∀ scope,
        expand? scope (front ++ rest) = do
          let expanded ← expand? scope front
          let more ← expand? scope rest
          return expanded ++ more) ∧
      ∀ text : String, ∃ parts, (∀ other, PartsOf text.toList other ↔ other = parts) ∧
        parts.flatMap Part.source = text.toList ∧
        (BracesClosed text.toList ↔
          ∀ last, parts.getLast? = some (.copied last) → '{' ∉ last) ∧
        ∀ scope, expand? scope text = (parts.mapM (Part.expand scope)).map String.join := by
  refine ⟨fun front rest hclosed scope => ?_, fun text => ?_⟩
  · have hchars := @expandChars_append_of_closed _ scope none hclosed nofun rest.toList
    rw [expand?, expand?, expand?, String.toList_append, hchars]
    rcases expandChars scope none front.toList with fault | expanded
    · rfl
    · rcases expandChars scope none rest.toList with fault | more
      · rfl
      · exact congrArg Except.ok String.ofList_append
  · obtain ⟨parts, hparts⟩ := exists_partsOf text.toList
    refine ⟨parts, fun other => ?_, hparts.source, hparts.bracesClosed_iff, fun scope =>
      expandChars_of_parts hparts⟩
    constructor
    · exact fun hother => hother.unique hparts
    · rintro rfl
      exact hparts

/-- A value that would open a placeholder. -/
def openValue : Scope :=
  Dictionary.empty.set "a" "\x7b"

theorem expand_append_openValue :
    BracesClosed "[\x7ba\x7d".toList ∧
      expand? openValue "[\x7ba\x7d" = .ok "[\x7b" ∧
      expand? openValue ("[\x7ba\x7d" ++ "a\x7d]") = .ok "[\x7ba\x7d]" := by
  have hclosed : BracesClosed "[\x7ba\x7d".toList := by decide
  refine ⟨hclosed, rfl, ?_⟩
  rw [expand_append.1 "[\x7ba\x7d" "a\x7d]" hclosed openValue]
  rfl

end SqlNotebook.Placeholder
