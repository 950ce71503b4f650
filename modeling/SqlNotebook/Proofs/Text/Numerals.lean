/-
SqlNotebook/Proofs/Text/Numerals.lean

How numbers are written.  The numeral of a natural number is a run of digits that is read as that
number again, and different numbers have different numerals (`toString_inj`).  An integer is
written with the digits of its size, behind a minus sign if it is negative (`toList_toString`).
-/
import SqlNotebook.Text.Blank
import SqlNotebook.Text.Numeral

namespace SqlNotebook

/-! ### Natural numbers -/

theorem Chars.natural?_toDigits (n : Nat) : natural? (Nat.toDigits 10 n) = some n := by
  have hdigits : (Nat.toDigits 10 n).all Char.isDigit = true :=
    List.all_eq_true.2 fun c hc => Nat.isDigit_of_mem_toDigits (by decide) (by decide) hc
  have hvalue : Nat.ofDigitChars 10 (Nat.toDigits 10 n) 0 = n :=
    Nat.ofDigitChars_toDigits (by decide) (by decide)
  simp [natural?, hdigits, hvalue, Nat.toDigits_ne_nil]

/-- The first character of a numeral is a digit, and in particular no sign. -/
theorem isDigit_of_toDigits_eq_cons {n : Nat} {c : Char} {rest : List Char}
    (h : Nat.toDigits 10 n = c :: rest) : c.isDigit = true :=
  Nat.isDigit_of_mem_toDigits (by decide) (by decide) (h ▸ List.mem_cons_self)

/-- The numeral of a positive number has no zero in front. -/
theorem head?_toDigits_ne_zero {n : Nat} (h : 0 < n) : (Nat.toDigits 10 n).head? ≠ some '0' := by
  induction n using Nat.strongRecOn with
  | ind n ih =>
    rw [Nat.toDigits_eq_if (by decide)]
    by_cases hsmall : n < 10
    · rw [if_pos hsmall]
      have hdigits : ∀ d : Fin 10, 0 < d.val → [Nat.digitChar d].head? ≠ some '0' := by decide
      exact hdigits ⟨n, hsmall⟩ h
    · have hfront := ih (n / 10) (by omega) (by omega)
      obtain ⟨c, rest, hcons⟩ :=
        List.exists_cons_of_ne_nil (Nat.toDigits_ne_nil (n := n / 10) (b := 10))
      rw [if_neg hsmall, hcons]
      rwa [hcons] at hfront

/-- The numeral of a machine word is read as that word. -/
theorem Numeral.word?_toString {n : Nat} (h : n < UInt64.size) :
    word? (toString n) = some (UInt64.ofNat n) := by
  obtain ⟨c, rest, hcons⟩ := List.exists_cons_of_ne_nil (Nat.toDigits_ne_nil (n := n) (b := 10))
  have hsign : c ≠ '+' := by
    rintro rfl
    exact absurd (isDigit_of_toDigits_eq_cons hcons) (by decide)
  have hvalue := Chars.natural?_toDigits n
  rw [hcons] at hvalue
  simp [word?, hcons, hsign, hvalue, h]

/-- Different numbers have different numerals. -/
theorem toString_inj {m n : Nat} : toString m = toString n ↔ m = n := by
  refine ⟨fun h => ?_, fun h => h ▸ rfl⟩
  have hdigits : Nat.toDigits 10 m = Nat.toDigits 10 n := by
    rw [← Nat.toList_repr, ← Nat.toList_repr, ← Nat.toString_eq_repr, ← Nat.toString_eq_repr, h]
  have hvalue := congrArg Chars.natural? hdigits
  rw [Chars.natural?_toDigits, Chars.natural?_toDigits] at hvalue
  exact Option.some.inj hvalue

theorem isDigit_of_mem_toString {n : Nat} {c : Char} (h : c ∈ (toString n).toList) :
    c.isDigit := by
  rw [Nat.toString_eq_repr, Nat.toList_repr] at h
  exact Nat.isDigit_of_mem_toDigits (by decide) (by decide) h

theorem Chars.not_isBlank_of_isDigit {c : Char} (h : c.isDigit) : ¬ isBlank c := by
  rw [Char.isDigit, Bool.and_eq_true, decide_eq_true_eq, decide_eq_true_eq] at h
  have hfrom : 48 ≤ c.toNat := h.1
  have hto : c.toNat ≤ 57 := h.2
  simp [isBlank, blankRanges]
  omega

/-! ### Integers -/

theorem Numeral.fitsInt64_iff {n : Int} : fitsInt64 n ↔ -int64Bound ≤ n ∧ n < int64Bound := by
  rw [fitsInt64, Bool.and_eq_true, decide_eq_true_eq, decide_eq_true_eq]

/-- The numeral of an integer has its digits, behind a minus sign if it is negative. -/
theorem toList_toString (n : Int) :
    (toString n).toList = (if n < 0 then ['-'] else []) ++ Nat.toDigits 10 n.natAbs := by
  rcases n with n | n
  · show n.repr.toList = _
    rw [Nat.toList_repr]
    rfl
  · show ("-" ++ (n + 1).repr).toList = _
    rw [String.toList_append, Nat.toList_repr, if_pos (Int.negSucc_lt_zero n)]
    rfl

/-- An integer starts with its sign or its first digit, and only digits follow. -/
theorem toList_toString_eq_cons (n : Int) :
    ∃ c rest, (toString n).toList = c :: rest ∧ (c = '-' ∨ c.isDigit) ∧ ∀ d ∈ rest, d.isDigit := by
  have hdigits : ∀ c ∈ Nat.toDigits 10 n.natAbs, c.isDigit :=
    fun c hc => Nat.isDigit_of_mem_toDigits (by decide) (by decide) hc
  rw [toList_toString]
  by_cases hneg : n < 0
  · rw [if_pos hneg]
    exact ⟨'-', _, rfl, .inl rfl, hdigits⟩
  · obtain ⟨c, rest, hcons⟩ :=
      List.exists_cons_of_ne_nil (Nat.toDigits_ne_nil (n := n.natAbs) (b := 10))
    rw [if_neg hneg, List.nil_append, hcons]
    rw [hcons, List.forall_mem_cons] at hdigits
    exact ⟨c, rest, rfl, .inr hdigits.1, hdigits.2⟩

theorem eq_minus_or_isDigit_of_mem_toString {n : Int} {c : Char}
    (h : c ∈ (toString n).toList) : c = '-' ∨ c.isDigit := by
  obtain ⟨first, rest, hcons, hfirst, hrest⟩ := toList_toString_eq_cons n
  rw [hcons, List.mem_cons] at h
  rcases h with rfl | h
  · exact hfirst
  · exact .inr (hrest c h)

end SqlNotebook
