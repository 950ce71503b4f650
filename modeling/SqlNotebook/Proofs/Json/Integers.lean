/-
SqlNotebook/Proofs/Json/Integers.lean

What the numeral of an integer is read as.

From `-2 ^ 63` up to `2 ^ 64` it is that integer.  Beyond that it is a floating-point number: the
first digits, as long as they fit into 64 bits, are rounded, and the number of the other digits is
the exponent of a rounded power of ten, with which they are multiplied.  So there are four errors,
of the digits that are dropped and of three roundings; `Approximates` bounds them together, and is
sharper where no digit is dropped.  A product that is infinite is refused (`scaled?_cases`).
-/
import SqlNotebook.Json.Number
import SqlNotebook.Proofs.Decimal.Rounding
import SqlNotebook.Proofs.Text.Numerals
import Mathlib.Data.List.TakeWhile

namespace SqlNotebook.JsonNumber

/-! ### Digits -/

theorem digit_le {c : Char} (h : c.isDigit) : c.toNat - '0'.toNat ≤ 9 := by
  rw [Char.isDigit, Bool.and_eq_true, decide_eq_true_eq, decide_eq_true_eq] at h
  have hto : c.toNat ≤ 57 := h.2
  show c.toNat - 48 ≤ 9
  omega

/-- Digits behind a number add less than one unit of it. -/
theorem ofDigitChars_bounds {digits : List Char} (h : ∀ c ∈ digits, c.isDigit) (n : ℕ) :
    n * 10 ^ digits.length ≤ Nat.ofDigitChars 10 digits n ∧
      Nat.ofDigitChars 10 digits n < (n + 1) * 10 ^ digits.length := by
  induction digits generalizing n with
  | nil => exact ⟨by simp, by simp⟩
  | cons c digits ih =>
    rw [List.forall_mem_cons] at h
    have hdigit := digit_le h.1
    obtain ⟨hlow, hhigh⟩ := ih h.2 (10 * n + (c.toNat - '0'.toNat))
    rw [Nat.ofDigitChars_cons, List.length_cons, Nat.pow_succ']
    constructor
    · refine le_trans ?_ hlow
      rw [← Nat.mul_assoc]
      exact Nat.mul_le_mul_right _ (by omega)
    · refine lt_of_lt_of_le hhigh ?_
      rw [← Nat.mul_assoc]
      exact Nat.mul_le_mul_right _ (by omega)

theorem takeDigits_cons_of_lt {n : ℕ} {c : Char}
    (h : 10 * n + (c.toNat - '0'.toNat) < UInt64.size) (digits : List Char) :
    takeDigits n (c :: digits) =
      let (value, taken, left) := takeDigits (10 * n + (c.toNat - '0'.toNat)) digits
      (value, taken + 1, left) := by
  rw [takeDigits]
  exact if_pos h

theorem takeDigits_cons_of_not_lt {n : ℕ} {c : Char}
    (h : ¬ 10 * n + (c.toNat - '0'.toNat) < UInt64.size) (digits : List Char) :
    takeDigits n (c :: digits) = (n, 0, digits.length + 1) := by
  rw [takeDigits]
  exact if_neg h

/-- The digits that are taken are those in front, and there are others only if the number does not
fit and one more digit would be too many. -/
theorem takeDigits_spec {digits : List Char} (h : ∀ c ∈ digits, c.isDigit) {n value taken left : ℕ}
    (htake : takeDigits n digits = (value, taken, left)) :
    value * 10 ^ left ≤ Nat.ofDigitChars 10 digits n ∧
      Nat.ofDigitChars 10 digits n < (value + 1) * 10 ^ left ∧
      (left = 0 ∨ UInt64.size ≤ Nat.ofDigitChars 10 digits n ∧ UInt64.size ≤ 10 * value + 9) := by
  induction digits generalizing n taken with
  | nil =>
    cases htake
    exact ⟨by simp, by simp, .inl rfl⟩
  | cons c digits ih =>
    have hdigits := List.forall_mem_cons.mp h
    by_cases hsmall : 10 * n + (c.toNat - '0'.toNat) < UInt64.size
    · rw [takeDigits_cons_of_lt hsmall] at htake
      cases hrest : takeDigits (10 * n + (c.toNat - '0'.toNat)) digits with
      | mk value' rest =>
        rw [hrest] at htake
        cases htake
        exact ih hdigits.2 hrest
    · rw [takeDigits_cons_of_not_lt hsmall] at htake
      have hbounds := ofDigitChars_bounds h n
      have hdigit := digit_le hdigits.1
      have hnext := (ofDigitChars_bounds hdigits.2 (10 * n + (c.toNat - '0'.toNat))).1
      rw [← Nat.ofDigitChars_cons] at hnext
      have hsize : UInt64.size ≤ Nat.ofDigitChars 10 (c :: digits) n :=
        (not_lt.mp hsmall).trans ((Nat.le_mul_of_pos_right _ (by positivity)).trans hnext)
      cases htake
      exact ⟨hbounds.1, hbounds.2, .inr ⟨hsize, by omega⟩⟩

/-! ### Numerals without a point -/

variable {digits : List Char}

/-- The parts of a numeral that has neither a point nor an exponent. -/
def wholeParts (digits : List Char) : DecimalParts := ⟨digits, none, none⟩

theorem ofChars_of_isDigit (h : ∀ c ∈ digits, c.isDigit) :
    DecimalParts.ofChars digits = wholeParts digits := by
  have hplain : ∀ c ∈ digits, c ≠ 'e' ∧ c ≠ 'E' ∧ c ≠ '.' := by
    intro c hc
    refine ⟨?_, ?_, ?_⟩
    all_goals
      rintro rfl
      exact absurd (h _ hc) (by decide)
  have hmark : ∀ c ∈ digits, !(decide (c = 'e') || decide (c = 'E')) := by
    intro c hc
    simp [hplain c hc]
  have hpoint : ∀ c ∈ digits, decide (c ≠ '.') := by
    intro c hc
    simp [hplain c hc]
  simp only [DecimalParts.ofChars, List.takeWhile_eq_self_iff.mpr hmark,
    List.takeWhile_eq_self_iff.mpr hpoint, List.dropWhile_eq_nil_iff.mpr hmark,
    List.dropWhile_eq_nil_iff.mpr hpoint]
  rfl

/-- The parts of the numeral of a natural number. -/
def natParts (n : ℕ) : DecimalParts := wholeParts (Nat.toDigits 10 n)

theorem ofChars_toDigits (n : ℕ) : DecimalParts.ofChars (Nat.toDigits 10 n) = natParts n :=
  ofChars_of_isDigit fun _ hc => Nat.isDigit_of_mem_toDigits (by decide) (by decide) hc

theorem isNumeral_natParts (n : ℕ) : isNumeral (natParts n) = true := by
  have hzero : (decide ((Nat.toDigits 10 n).head? ≠ some '0') ||
      decide ((Nat.toDigits 10 n).length = 1)) = true := by
    rw [Bool.or_eq_true, decide_eq_true_eq, decide_eq_true_eq]
    rcases Nat.eq_zero_or_pos n with rfl | hn
    · exact .inr rfl
    · exact .inl (head?_toDigits_ne_zero hn)
  rw [isNumeral, natParts, wholeParts, Chars.natural?_toDigits]
  simp only [hzero, Option.isSome_some, Option.all_none, Bool.and_self]

/-- A numeral without a point is an integer, or its size is looked at. -/
theorem ofUnsigned?_toDigits (negative : Bool) (n : ℕ) :
    ofUnsigned? negative (Nat.toDigits 10 n) =
      match integer? negative (natParts n) with
      | some value => some (.integer value)
      | none =>
        (size? (natParts n) 0).map fun size => .real (if negative then size.neg else size) := by
  rw [ofUnsigned?, ofChars_toDigits]
  simp only [isNumeral_natParts, Bool.not_true, Bool.false_eq_true, if_false]
  cases integer? negative (natParts n) with
  | some value => rfl
  | none =>
    show (size? (natParts n) 0).bind _ = (size? (natParts n) 0).map _
    cases size? (natParts n) 0 <;> rfl

theorem integer?_natParts_false (n : ℕ) :
    integer? false (natParts n) = if n < UInt64.size then some (n : ℤ) else none := by
  rw [integer?, natParts, wholeParts, Nat.ofDigitChars_toDigits (by decide) (by decide)]

theorem integer?_natParts_true (n : ℕ) :
    integer? true (natParts n) =
      if 0 < n && n ≤ Numeral.int64Bound then some (-(n : ℤ)) else none := by
  rw [integer?, natParts, wholeParts, Nat.ofDigitChars_toDigits (by decide) (by decide)]

/-! ### Products with powers of ten -/

section Products

open Binary64

theorem power_rounds {e : ℕ} (he : e ≤ maxPower) : Rounds false (10 ^ e) (power e) := by
  have hcount : digitCount 1 = 1 := rfl
  have hpower : power e = ofRatio false (10 ^ e) 1 := by
    have he' : e ≤ 308 := he
    rw [power, ofDecimal, hcount, if_neg (by simp; omega), if_neg (by omega), power_natCast,
      power_neg_natCast, one_mul]
  have h := ofRatio_rounds false one_pos (Nat.one_le_pow e 10 (by norm_num))
  rw [← hpower] at h
  simpa using h

theorem scaled?_natCast {n : ℕ} (hn : 0 < n) (e : ℕ) :
    scaled? n e =
      if maxPower < e then none
      else (some ((Binary64.ofNat n).mulPos (power e))).filter Binary64.isFinite := by
  rw [scaled?, if_neg hn.ne', if_neg (by omega), Int.natAbs_natCast]

theorem two_pow_le_mul_ten_pow {n e k : ℕ} (hn : 2 ^ 60 ≤ n) (hk : k ≤ 60 + 33 * (e / 10)) :
    2 ^ k ≤ n * 10 ^ e := by
  calc 2 ^ k ≤ 2 ^ (60 + 33 * (e / 10)) := Nat.pow_le_pow_right two_pos hk
    _ = 2 ^ 60 * (2 ^ 33) ^ (e / 10) := by rw [pow_add, pow_mul]
    _ ≤ n * (10 ^ 10) ^ (e / 10) :=
        Nat.mul_le_mul hn (Nat.pow_le_pow_left (by norm_num) _)
    _ ≤ n * 10 ^ e := by
        rw [← pow_mul]
        exact Nat.mul_le_mul_left n (Nat.pow_le_pow_right (by norm_num) (by omega))

/-- Beyond the greatest power of ten every number is out of range. -/
theorem great_of_maxPower_lt {n e : ℕ} (hn : 2 ^ 60 ≤ n) (he : maxPower < e) :
    2 ^ 1023 ≤ n * 10 ^ e := by
  have he' : 308 < e := he
  exact two_pow_le_mul_ten_pow hn (by omega)

/-- Bounds of two factors are bounds of the product. -/
theorem mul_bounds {x y a b low high : ℚ} (hx : 0 ≤ x) (hy : 0 ≤ y) (hlow : 0 ≤ low)
    (ha : x * low ≤ a ∧ a ≤ x * high) (hb : y * low ≤ b ∧ b ≤ y * high) :
    x * y * low ^ 2 ≤ a * b ∧ a * b ≤ x * y * high ^ 2 := by
  have ha0 : 0 ≤ a := le_trans (by positivity) ha.1
  have hb0 : 0 ≤ b := le_trans (by positivity) hb.1
  constructor
  · calc x * y * low ^ 2 = x * low * (y * low) := by ring
      _ ≤ a * b := mul_le_mul ha.1 hb.1 (by positivity) ha0
  · calc a * b ≤ x * high * (y * high) := mul_le_mul ha.2 hb.2 hb0 (ha0.trans ha.2)
      _ = x * y * high ^ 2 := by ring

/-- One more rounding is one more factor. -/
theorem bounds_succ {x y z low high : ℚ} {n : ℕ} (hlow : 0 ≤ low) (hhigh : 0 ≤ high)
    (hy : x * low ^ n ≤ y ∧ y ≤ x * high ^ n) (hz : y * low ≤ z ∧ z ≤ y * high) :
    x * low ^ (n + 1) ≤ z ∧ z ≤ x * high ^ (n + 1) := by
  rw [pow_succ, pow_succ, ← mul_assoc, ← mul_assoc]
  exact ⟨(mul_le_mul_of_nonneg_right hy.1 hlow).trans hz.1,
    hz.2.trans (mul_le_mul_of_nonneg_right hy.2 hhigh)⟩

/-- A number is out of range if something that is at most two roundings greater is rounded to an
infinity. -/
theorem great_of_infinite {x y : ℚ} (hy : 0 ≤ y) (hx : 2 ^ 1024 ≤ x + x / 2 ^ 53)
    (h : x ≤ y * (1 + 1 / 2 ^ 53) ^ 2) : 2 ^ 1023 ≤ y := by
  have hdouble : x + x / 2 ^ 53 ≤ 2 * y := by
    calc x + x / 2 ^ 53 = x * (1 + 1 / 2 ^ 53) := by ring
      _ ≤ y * (1 + 1 / 2 ^ 53) ^ 2 * (1 + 1 / 2 ^ 53) := by gcongr
      _ = (1 + 1 / 2 ^ 53) ^ 3 * y := by ring
      _ ≤ 2 * y := by
          gcongr
          norm_num
  rw [pow_succ' (2 : ℚ) 1023] at hx
  exact le_of_mul_le_mul_left (hx.trans hdouble) two_pos

theorem le_mul_sq {x y : ℚ} (hy : 0 ≤ y) (h : x ≤ y) : x ≤ y * (1 + 1 / 2 ^ 53) ^ 2 :=
  h.trans (le_mul_of_one_le_right hy (by norm_num))

/-- A number times a power of ten is rounded three times on the way, or it is out of range. -/
theorem scaled?_cases {n : ℕ} (hn : 2 ^ 60 ≤ n) (e : ℕ) :
    (∃ (m : ℕ) (k : ℤ), scaled? n e = some (.finite false m k) ∧ 0 ≤ k ∧
        (m * 2 ^ k : ℚ) < 2 ^ 1024 ∧
        (n * 10 ^ e : ℚ) * (1 - 1 / 2 ^ 53) ^ 3 ≤ m * 2 ^ k ∧
        (m * 2 ^ k : ℚ) ≤ n * 10 ^ e * (1 + 1 / 2 ^ 53) ^ 3) ∨
      scaled? n e = none ∧ 2 ^ 1023 ≤ n * 10 ^ e := by
  have hn0 : 0 < n := lt_of_lt_of_le (by norm_num) hn
  have hn' : (2 ^ 60 : ℚ) ≤ n := by exact_mod_cast hn
  have hten : (1 : ℚ) ≤ 10 ^ e := one_le_pow₀ (by norm_num)
  have hpos : (0 : ℚ) ≤ n * 10 ^ e := by positivity
  rw [scaled?_natCast hn0]
  split
  · next hgreat => exact .inr ⟨rfl, great_of_maxPower_lt hn hgreat⟩
  next hsmall =>
  -- the two factors are rounded, and then the product; each of the three may be infinite
  have hnumber := ofNat_rounds hn0
  have hpower := power_rounds (not_lt.mp hsmall)
  rcases hnumber.finite_or_infinite with ⟨m₁, k₁, h₁⟩ | ⟨h₁, hgreat⟩
  · rcases hpower.finite_or_infinite with ⟨m₂, k₂, h₂⟩ | ⟨h₂, hgreat⟩
    · rw [h₁] at hnumber ⊢
      rw [h₂] at hpower ⊢
      have hbounds :=
        mul_bounds (by positivity) (by positivity) (by norm_num) hnumber.bounds hpower.bounds
      have hgreat : (2 : ℚ) ^ 52 ≤ m₁ * 2 ^ k₁ * (m₂ * 2 ^ k₂) := by
        calc (2 : ℚ) ^ 52 ≤ (2 : ℚ) ^ 60 * 1 * (1 - 1 / 2 ^ 53) ^ 2 := by norm_num
          _ ≤ (n : ℚ) * 10 ^ e * (1 - 1 / 2 ^ 53) ^ 2 := by gcongr
          _ ≤ (m₁ : ℚ) * 2 ^ k₁ * (m₂ * 2 ^ k₂) := hbounds.1
      have hproduct := mulPos_rounds false false (le_trans (by norm_num) hgreat)
      rcases hproduct.finite_or_infinite with ⟨m, k, h⟩ | ⟨h, hinfinite⟩
      · rw [h] at hproduct ⊢
        have herror := bounds_succ (by norm_num) (by norm_num) hbounds hproduct.bounds
        exact .inl ⟨m, k, rfl, hproduct.exponent_nonneg hgreat, hproduct.lt, herror⟩
      · rw [h]
        exact .inr ⟨rfl, by exact_mod_cast great_of_infinite hpos hinfinite hbounds.2⟩
    · have hle : (10 ^ e : ℚ) ≤ n * 10 ^ e :=
        le_mul_of_one_le_left (by positivity) (le_trans (by norm_num) hn')
      rw [h₁, h₂]
      exact .inr ⟨rfl, by exact_mod_cast great_of_infinite hpos hgreat (le_mul_sq hpos hle)⟩
  · have hle : (n : ℚ) ≤ n * 10 ^ e := le_mul_of_one_le_right (by positivity) hten
    rw [h₁]
    refine .inr ⟨?_, by exact_mod_cast great_of_infinite hpos hgreat (le_mul_sq hpos hle)⟩
    cases power e <;> rfl

end Products

/-! ### Great integers -/

/-- What a great number becomes where it is read as a floating-point number: it is below
`2 ^ 1025`, its error is at most one part in `2 ^ 51`, and if it fits into 64 bits it goes to a
multiple of `2048` that is at most half a step away. -/
structure Approximates (n w : ℕ) : Prop where
  lt : n < 2 ^ 1025
  error : 2 ^ 51 * |(w : ℤ) - n| ≤ n
  word : n < UInt64.size → 2048 ∣ w ∧ |(w : ℤ) - n| ≤ 1024

/-- A floating-point number that is whole and approximates `n`. -/
def IsNear (n : ℕ) (x : Binary64) : Prop :=
  ∃ (m : ℕ) (k : ℤ), x = .finite false m k ∧ 0 ≤ k ∧ Approximates n (m * 2 ^ k.toNat)

theorem cast_mul_two_pow {k : ℤ} (hk : 0 ≤ k) (m : ℕ) :
    ((m * 2 ^ k.toNat : ℕ) : ℚ) = m * 2 ^ k := by
  obtain ⟨n, rfl⟩ := Int.eq_ofNat_of_zero_le hk
  simp

open Binary64 in
/-- One rounding of a number of 64 bits. -/
theorem Approximates.of_rounds {n m w : ℕ} {k : ℤ} (hlow : 2 ^ 63 ≤ n) (hhigh : n < UInt64.size)
    (h : Rounds false n (.finite false m k)) (hw : (w : ℚ) = m * 2 ^ k) : Approximates n w := by
  have hbinade : InBinade n 63 := by
    constructor
    · exact_mod_cast hlow
    · exact_mod_cast hhigh
  cases h with
  | @finite l _ _ hl _ _ hstep _ herror =>
    obtain rfl : l = 63 := hl.unique hbinade
    rw [← hw] at herror
    have herror' : |(w : ℤ) - n| ≤ 1024 := by
      have hstep' : (2 : ℚ) ^ (63 - 53 : ℤ) = 1024 := by norm_num
      rw [hstep'] at herror
      exact_mod_cast herror
    obtain ⟨d, rfl⟩ : ∃ d : ℕ, k = 11 + d := ⟨(k - 11).toNat, by omega⟩
    have hwhole : w = 2048 * (m * 2 ^ d) := by
      have hvalue : (w : ℚ) = 2048 * (m * 2 ^ d) := by
        rw [hw, zpow_add₀ two_ne_zero, zpow_natCast]
        norm_num
        ring
      exact_mod_cast hvalue
    refine ⟨?_, ?_, fun _ => ⟨⟨_, hwhole⟩, herror'⟩⟩
    · have hhigh' : n < 2 ^ 64 := hhigh
      exact hhigh'.trans_le (pow_le_pow_right₀ one_le_two (by norm_num))
    · have hlow' : (2 ^ 63 : ℤ) ≤ n := by exact_mod_cast hlow
      linarith

/-- Three roundings of the digits in front. -/
theorem Approximates.of_bounds {n value e w : ℕ} (hvalue : 2 ^ 60 ≤ value)
    (hgreat : UInt64.size ≤ n) (hlow : value * 10 ^ e ≤ n) (hhigh : n < (value + 1) * 10 ^ e)
    (hbounds : (value * 10 ^ e : ℚ) * (1 - 1 / 2 ^ 53) ^ 3 ≤ w ∧
      (w : ℚ) ≤ value * 10 ^ e * (1 + 1 / 2 ^ 53) ^ 3)
    (hlt : (w : ℚ) < 2 ^ 1024) : Approximates n w := by
  have hlow' : (value * 10 ^ e : ℚ) ≤ n := by exact_mod_cast hlow
  have hhigh' : (n : ℚ) ≤ value * 10 ^ e + 10 ^ e := by
    rw [← add_one_mul]
    exact_mod_cast hhigh.le
  have hunit : (10 ^ e : ℚ) * 2 ^ 60 ≤ value * 10 ^ e := by
    rw [mul_comm]
    gcongr
    exact_mod_cast hvalue
  have hpos : (0 : ℚ) ≤ value * 10 ^ e := by positivity
  generalize (value * 10 ^ e : ℚ) = front at *
  generalize (10 ^ e : ℚ) = unit at *
  -- the three roundings as one factor on each side
  have hw : front * (1 - 3 / 2 ^ 53) ≤ w ∧ w ≤ front * (1 + 7 / 2 ^ 54) := by
    constructor
    · exact le_trans (mul_le_mul_of_nonneg_left (by norm_num) hpos) hbounds.1
    · exact hbounds.2.trans (mul_le_mul_of_nonneg_left (by norm_num) hpos)
  norm_num at hunit hw
  refine ⟨?_, ?_, fun hless => absurd hless (not_lt.mpr hgreat)⟩
  · have hdouble : (n : ℚ) ≤ 2 * w := by linarith [hw.1]
    have hlt' : (n : ℚ) < 2 ^ 1025 := by
      rw [pow_succ' (2 : ℚ) 1024]
      exact hdouble.trans_lt (mul_lt_mul_of_pos_left hlt two_pos)
    exact_mod_cast hlt'
  · have herror : 2 ^ 51 * |(w : ℚ) - n| ≤ n := by
      rw [← le_div_iff₀' (by norm_num), abs_le]
      norm_num
      constructor <;> linarith [hw.1, hw.2]
    exact_mod_cast herror

/-! ### Numerals of great integers -/

open Binary64

/-- After two roundings a number of 64 bits is not out of range. -/
theorem finite_of_lt {x y : ℚ} {r : Binary64} (h : Rounds false x r) (hy : 0 ≤ y)
    (hsmall : y < 2 ^ 64) (hx : x ≤ y * (1 + 1 / 2 ^ 53) ^ 2) :
    ∃ (m : ℕ) (k : ℤ), r = .finite false m k := by
  rcases h.finite_or_infinite with hfinite | ⟨-, hgreat⟩
  · exact hfinite
  · have hpow : (2 : ℚ) ^ 64 ≤ 2 ^ 1023 := pow_le_pow_right₀ one_le_two (by norm_num)
    exact absurd (hpow.trans (great_of_infinite hy hgreat hx)) (not_le.mpr hsmall)

/-- A number of 64 bits is rounded to one that is whole. -/
theorem ofNat_eq_finite {n : ℕ} (hlow : 2 ^ 63 ≤ n) (hhigh : n < UInt64.size) :
    ∃ (m : ℕ) (k : ℤ), Binary64.ofNat n = .finite false m k ∧ 0 ≤ k ∧
      Rounds false n (.finite false m k) := by
  have hlow' : (2 ^ 63 : ℚ) ≤ n := by exact_mod_cast hlow
  have hhigh' : (n : ℚ) < 2 ^ 64 := by exact_mod_cast hhigh
  have hrounds := ofNat_rounds (n := n) (lt_of_lt_of_le (by norm_num) hlow)
  obtain ⟨m, k, h⟩ := finite_of_lt hrounds n.cast_nonneg hhigh' (le_mul_sq n.cast_nonneg le_rfl)
  rw [h] at hrounds
  exact ⟨m, k, h, hrounds.exponent_nonneg (le_trans (by norm_num) hlow'), hrounds⟩

theorem ofNat_isNear {n : ℕ} (hlow : 2 ^ 63 ≤ n) (hhigh : n < UInt64.size) :
    IsNear n (.ofNat n) := by
  obtain ⟨m, k, h, hk, hrounds⟩ := ofNat_eq_finite hlow hhigh
  exact ⟨m, k, h, hk, .of_rounds hlow hhigh hrounds (cast_mul_two_pow hk m)⟩

/-- The product with one does not change a number that has been rounded. -/
theorem scaled?_zero {n : ℕ} (hlow : 2 ^ 63 ≤ n) (hhigh : n < UInt64.size) :
    ∃ x, scaled? n 0 = some x ∧ IsNear n x := by
  have hn : 0 < n := lt_of_lt_of_le (by norm_num) hlow
  have hhigh' : (n : ℚ) < 2 ^ 64 := by exact_mod_cast hhigh
  obtain ⟨m, k, h, hk, hrounds⟩ := ofNat_eq_finite hlow hhigh
  obtain ⟨hmLow, hmHigh⟩ := hrounds.mantissa_bounds
  have hgreat : (2 ^ 52 : ℚ) ≤ m * 2 ^ k := by
    have hm : (2 ^ 52 : ℚ) ≤ m := by exact_mod_cast hmLow
    exact hm.trans (le_mul_of_one_le_right (by positivity) (one_le_zpow₀ one_le_two hk))
  have hsmall : (m * 2 ^ k : ℚ) ≤ n * (1 + 1 / 2 ^ 53) ^ 2 :=
    hrounds.bounds.2.trans (mul_le_mul_of_nonneg_left (by norm_num) n.cast_nonneg)
  have hone : power 0 = .finite false (2 ^ 52) (-52) := rfl
  have hvalue : (m * 2 ^ k * ((2 ^ 52 : ℕ) * 2 ^ (-52 : ℤ)) : ℚ) = m * 2 ^ k := by norm_num
  have hproduct := mulPos_rounds false false (hvalue ▸ le_trans (by norm_num) hgreat)
  rw [hvalue] at hproduct
  obtain ⟨m', k', h'⟩ := finite_of_lt hproduct n.cast_nonneg hhigh' hsmall
  have hscaled := scaled?_natCast hn 0
  rw [if_neg (by decide), h, hone, h'] at hscaled
  rw [h'] at hproduct
  have hk' := hproduct.exponent_nonneg hgreat
  have hw := (cast_mul_two_pow hk' m').trans (hproduct.exact hmLow hmHigh)
  exact ⟨_, hscaled, m', k', rfl, hk', .of_rounds hlow hhigh hrounds hw⟩

/-! ### What integers are read as -/

/-- A number that does not fit into 64 bits, from its digits in front. -/
theorem scaled?_isNear {n value e : ℕ} (hvalue : 2 ^ 60 ≤ value) (hgreat : UInt64.size ≤ n)
    (hlow : value * 10 ^ e ≤ n) (hhigh : n < (value + 1) * 10 ^ e) :
    (∃ x, scaled? value e = some x ∧ IsNear n x) ∨
      scaled? value e = none ∧ 2 ^ 1023 ≤ n := by
  rcases scaled?_cases hvalue e with ⟨m, k, h, hk, hlt, hbounds⟩ | ⟨h, hout⟩
  · rw [← cast_mul_two_pow hk] at hlt hbounds
    exact .inl ⟨_, h, m, k, rfl, hk, .of_bounds hvalue hgreat hlow hhigh hbounds hlt⟩
  · exact .inr ⟨h, hout.trans hlow⟩

/-- The size of a great number, or nothing if it is out of range. -/
theorem size?_natParts {n : ℕ} (hn : 2 ^ 63 ≤ n) :
    (∃ x, size? (natParts n) 0 = some x ∧ IsNear n x) ∨
      size? (natParts n) 0 = none ∧ 2 ^ 1023 ≤ n := by
  cases htake : takeDigits 0 (Nat.toDigits 10 n) with
  | mk value rest =>
  obtain ⟨taken, left⟩ := rest
  have hdigits : ∀ c ∈ Nat.toDigits 10 n, c.isDigit :=
    fun c hc => Nat.isDigit_of_mem_toDigits (by decide) (by decide) hc
  have htaken := takeDigits_spec hdigits htake
  rw [Nat.ofDigitChars_toDigits (by decide) (by decide)] at htaken
  obtain ⟨hlow, hhigh, hleft⟩ := htaken
  have hsize : size? (natParts n) 0 = scaled? value left := by
    simp [size?, natParts, wholeParts, htake, takeDigits]
  rw [hsize]
  rcases hleft with rfl | ⟨hgreat, hleft⟩
  · obtain rfl : value = n := by omega
    rcases lt_or_ge value UInt64.size with hword | hgreat
    · exact .inl (scaled?_zero hn hword)
    · exact scaled?_isNear (le_trans (by norm_num) hn) hgreat hlow hhigh
  · have hvalue : 2 ^ 60 ≤ value := by
      have hword : UInt64.size = 18446744073709551616 := rfl
      omega
    exact scaled?_isNear hvalue hgreat hlow hhigh

theorem ofChars?_toString_eq (v : ℤ) :
    ofChars? (toString v).toList =
      match integer? (decide (v < 0)) (natParts v.natAbs) with
      | some value => some (.integer value)
      | none =>
        (size? (natParts v.natAbs) 0).map fun size => .real (if v < 0 then size.neg else size) := by
  rw [toList_toString]
  by_cases hneg : v < 0
  · rw [if_pos hneg, decide_eq_true hneg, List.singleton_append, ofChars?, ofUnsigned?_toDigits]
    simp only [hneg, if_true]
  · have hsign : ∀ rest, Nat.toDigits 10 v.natAbs ≠ '-' :: rest := by
      intro rest hdigits
      exact absurd (isDigit_of_toDigits_eq_cons hdigits) (by decide)
    rw [if_neg hneg, decide_eq_false hneg, List.nil_append, ofChars?.eq_2 _ hsign,
      ofUnsigned?_toDigits]
    simp only [hneg, Bool.false_eq_true, if_false]

/-- The integers that are read as such. -/
theorem integer?_natAbs (v : ℤ) :
    integer? (decide (v < 0)) (natParts v.natAbs) =
      if -(2 ^ 63 : ℤ) ≤ v ∧ v < 2 ^ 64 then some v else none := by
  have hword : UInt64.size = 2 ^ 64 := rfl
  have hbound : Numeral.int64Bound = 2 ^ 63 := rfl
  by_cases hneg : v < 0
  · rw [decide_eq_true hneg, integer?_natParts_true]
    simp only [Bool.and_eq_true, decide_eq_true_eq]
    split
    · rw [if_pos (by omega)]
      exact congrArg some (by omega)
    · rw [if_neg (by omega)]
  · rw [decide_eq_false hneg, integer?_natParts_false]
    split
    · rw [if_pos (by omega)]
      exact congrArg some (by omega)
    · rw [if_neg (by omega)]

/-- **What the numeral of an integer is read as.**  Up to 64 bits it is the integer itself; a
greater one is read as a floating-point number that is near, or not at all. -/
theorem ofChars?_toString (v : ℤ) :
    (-(2 ^ 63 : ℤ) ≤ v ∧ v < 2 ^ 64 → ofChars? (toString v).toList = some (.integer v)) ∧
      (¬ (-(2 ^ 63 : ℤ) ≤ v ∧ v < 2 ^ 64) →
        (∃ x, ofChars? (toString v).toList = some (.real (if v < 0 then x.neg else x)) ∧
            IsNear v.natAbs x) ∨
          ofChars? (toString v).toList = none ∧ 2 ^ 1023 ≤ v.natAbs) := by
  rw [ofChars?_toString_eq, integer?_natAbs]
  constructor
  · intro hfits
    rw [if_pos hfits]
  · intro hgreat
    rw [if_neg hgreat]
    rcases size?_natParts (n := v.natAbs) (by omega) with ⟨x, hx, hnear⟩ | ⟨hnone, hout⟩
    · exact .inl ⟨x, by rw [hx]; rfl, hnear⟩
    · exact .inr ⟨by rw [hnone]; rfl, hout⟩

end SqlNotebook.JsonNumber
