/-
SqlNotebook/Proofs/Decimal/Rounding.lean

How far a rounded number is from the exact one.

A number `x` lies in the binade of `k` if `2 ^ k ≤ x < 2 ^ (k + 1)`; there the numbers with 53 bits
stand `2 ^ (k - 52)` apart, and rounding goes to one that is at most half of that away.  `Rounds`
says this of a result, or that the result is infinite and `x` is out of range; `ofRatio_rounds`
proves it for the one function that rounds, and products inherit it.  From it follow the relative
error (`Rounds.error_le`) and that a number with 53 bits is not changed (`Rounds.exact`).
-/
import SqlNotebook.Decimal.Binary64
import Mathlib.Algebra.Order.Field.Power
import Mathlib.Algebra.Order.Ring.Abs
import Mathlib.Data.Rat.Cast.Order
import Mathlib.Tactic.Linarith
import Mathlib.Tactic.NormNum
import Mathlib.Tactic.Positivity
import Mathlib.Tactic.Ring

namespace SqlNotebook.Binary64

/-! ### Powers with a sign -/

theorem power_natCast (base n : ℕ) : power base n = base ^ n := rfl

theorem power_neg_natCast (base n : ℕ) : power base (-n) = 1 := by
  simp [power]

theorem power_div {base : ℕ} (hbase : 0 < base) (e : ℤ) :
    (power base e : ℚ) / power base (-e) = (base : ℚ) ^ e := by
  have hne : (base : ℚ) ≠ 0 := by positivity
  obtain ⟨n, rfl | rfl⟩ := e.eq_nat_or_neg
  · simp [power_natCast, power_neg_natCast]
  · simp [power_natCast, power_neg_natCast]

theorem power_pos {base : ℕ} (hbase : 0 < base) (e : ℤ) : 0 < power base e :=
  Nat.pow_pos hbase

/-- A fraction times a power, with the power where `power` puts it. -/
theorem scaled_div {base : ℕ} (hbase : 0 < base) (num den : ℕ) (e : ℤ) :
    ((num * power base e : ℕ) : ℚ) / (den * power base (-e) : ℕ) =
      num / den * (base : ℚ) ^ e := by
  rw [← power_div hbase, Nat.cast_mul, Nat.cast_mul, mul_div_mul_comm]

/-! ### The nearest integer -/

/-- The nearest integer is at most one half away. -/
theorem roundHalfEven_error (num : ℕ) {den : ℕ} (hden : 0 < den) :
    |(roundHalfEven num den : ℚ) - num / den| ≤ 1 / 2 := by
  have hpos : (0 : ℚ) < den := by exact_mod_cast hden
  have hmod : num % den < den := Nat.mod_lt _ hden
  have hdivision : den * (num / den) + num % den = num := Nat.div_add_mod num den
  have hbelow : 2 * num ≤ 2 * (roundHalfEven num den * den) + den := by
    rw [roundHalfEven, Nat.mul_comm _ den]
    split
    · next h =>
      simp only [Bool.or_eq_true, Bool.and_eq_true, decide_eq_true_eq] at h
      omega
    · rw [Nat.mul_add]
      omega
  have habove : 2 * (roundHalfEven num den * den) ≤ 2 * num + den := by
    rw [roundHalfEven, Nat.mul_comm _ den]
    split
    · omega
    · next h =>
      simp only [Bool.or_eq_true, Bool.and_eq_true, decide_eq_true_eq, not_or] at h
      rw [Nat.mul_add]
      omega
  have hbelow' : (2 * num : ℚ) ≤ 2 * (roundHalfEven num den * den) + den := by
    exact_mod_cast hbelow
  have habove' : (2 * (roundHalfEven num den * den) : ℚ) ≤ 2 * num + den := by
    exact_mod_cast habove
  have hratio : (num / den : ℚ) * den = num := div_mul_cancel₀ _ hpos.ne'
  rw [abs_le]
  constructor
  · refine le_of_mul_le_mul_right ?_ hpos
    rw [sub_mul, hratio]
    linarith
  · refine le_of_mul_le_mul_right ?_ hpos
    rw [sub_mul, hratio]
    linarith

/-! ### Binades -/

/-- The number `x` lies between two successive powers of two. -/
def InBinade (x : ℚ) (k : ℤ) : Prop :=
  2 ^ k ≤ x ∧ x < 2 ^ (k + 1)

theorem inBinade_natCast {n : ℕ} (h : 0 < n) : InBinade n n.log2 := by
  have hlow : 2 ^ n.log2 ≤ n := Nat.log2_self_le h.ne'
  have hhigh : n < 2 ^ (n.log2 + 1) := Nat.lt_log2_self
  constructor
  · rw [zpow_natCast]
    exact_mod_cast hlow
  · rw [← Nat.cast_succ, zpow_natCast]
    exact_mod_cast hhigh

/-- A number lies in one binade. -/
theorem InBinade.unique {x : ℚ} {k l : ℤ} (hk : InBinade x k) (hl : InBinade x l) : k = l := by
  have hlt : (2 : ℚ) ^ k < 2 ^ (l + 1) := lt_of_le_of_lt hk.1 hl.2
  have hgt : (2 : ℚ) ^ l < 2 ^ (k + 1) := lt_of_le_of_lt hl.1 hk.2
  rw [zpow_lt_zpow_iff_right₀ (by norm_num)] at hlt hgt
  omega

theorem inBinade_floorLog2 {num den : ℕ} (hnum : 0 < num) (hden : 0 < den) :
    InBinade (num / den) (floorLog2 num den) := by
  have hpos : (0 : ℚ) < den := by exact_mod_cast hden
  obtain ⟨hnumLow, hnumHigh⟩ := inBinade_natCast hnum
  obtain ⟨hdenLow, hdenHigh⟩ := inBinade_natCast hden
  generalize hlog : (num.log2 : ℤ) - den.log2 = e
  -- the difference of the two logarithms is the right one or one too much
  have hhigh : (num / den : ℚ) < 2 ^ (e + 1) := by
    rw [div_lt_iff₀ hpos]
    calc (num : ℚ) < 2 ^ ((num.log2 : ℤ) + 1) := hnumHigh
      _ = 2 ^ (e + 1) * 2 ^ (den.log2 : ℤ) := by
        rw [← zpow_add₀ two_ne_zero]
        congr 1
        omega
      _ ≤ 2 ^ (e + 1) * den := by gcongr
  have hlow : (2 : ℚ) ^ (e - 1) ≤ num / den := by
    rw [le_div_iff₀ hpos]
    calc (2 : ℚ) ^ (e - 1) * den ≤ 2 ^ (e - 1) * 2 ^ ((den.log2 : ℤ) + 1) := by gcongr
      _ = 2 ^ (num.log2 : ℤ) := by
        rw [← zpow_add₀ two_ne_zero]
        congr 1
        omega
      _ ≤ num := hnumLow
  have hcompare : num * power 2 (-e) < den * power 2 e ↔ (num / den : ℚ) < 2 ^ e := by
    have hpower : (0 : ℚ) < power 2 (-e) := by exact_mod_cast power_pos two_pos (-e)
    have hratio := power_div two_pos e
    rw [div_eq_iff hpower.ne'] at hratio
    rw [div_lt_iff₀ hpos, ← Nat.cast_lt (α := ℚ), Nat.cast_mul, Nat.cast_mul, hratio,
      ← mul_assoc, mul_lt_mul_iff_left₀ hpower, mul_comm, Nat.cast_two]
  rw [floorLog2]
  simp only [hlog, hcompare]
  split
  · next hless => exact ⟨hlow, by rwa [sub_add_cancel]⟩
  · next hless => exact ⟨not_lt.mp hless, hhigh⟩

/-! ### Rounding -/

/-- What may come out where the positive number `x` is rounded: a number with 53 bits that is at
most half a step away, in steps of the binade of `x`, or an infinity if `x` is too great. -/
inductive Rounds (negative : Bool) (x : ℚ) : Binary64 → Prop
  | finite {k : ℤ} {mantissa : ℕ} {exponent : ℤ} (hbinade : InBinade x k)
      (hlow : 2 ^ 52 ≤ mantissa) (hhigh : mantissa < 2 ^ 53) (hstep : k - 52 ≤ exponent)
      (hmax : exponent ≤ maxExponent) (herror : |mantissa * 2 ^ exponent - x| ≤ 2 ^ (k - 53)) :
      Rounds negative x (.finite negative mantissa exponent)
  | infinite (hgreat : 2 ^ 1024 ≤ x + x / 2 ^ 53) : Rounds negative x (.infinite negative)

variable {negative : Bool} {x : ℚ} {mantissa : ℕ} {exponent : ℤ}

theorem Rounds.finite_or_infinite {r : Binary64} (h : Rounds negative x r) :
    (∃ m k, r = .finite negative m k) ∨ r = .infinite negative ∧ 2 ^ 1024 ≤ x + x / 2 ^ 53 := by
  cases h with
  | finite => exact .inl ⟨_, _, rfl⟩
  | infinite hgreat => exact .inr ⟨rfl, hgreat⟩

theorem Rounds.mantissa_bounds (h : Rounds negative x (.finite negative mantissa exponent)) :
    2 ^ 52 ≤ mantissa ∧ mantissa < 2 ^ 53 := by
  cases h with
  | finite _ hlow hhigh => exact ⟨hlow, hhigh⟩

/-- Half a step of a binade is a small part of its numbers. -/
theorem InBinade.half_step_le {k : ℤ} (h : InBinade x k) : (2 : ℚ) ^ (k - 53) ≤ x / 2 ^ 53 := by
  rw [zpow_sub₀ two_ne_zero, le_div_iff₀ (by positivity)]
  calc (2 : ℚ) ^ k / 2 ^ (53 : ℤ) * 2 ^ 53 = 2 ^ k := div_mul_cancel₀ _ (by positivity)
    _ ≤ x := h.1

/-- The error is at most one part in `2 ^ 53`. -/
theorem Rounds.error_le (h : Rounds negative x (.finite negative mantissa exponent)) :
    |mantissa * 2 ^ exponent - x| ≤ x / 2 ^ 53 := by
  cases h with
  | finite hbinade _ _ _ _ herror => exact herror.trans hbinade.half_step_le

/-- The bounds of a rounded number, as factors. -/
theorem Rounds.bounds (h : Rounds negative x (.finite negative mantissa exponent)) :
    x * (1 - 1 / 2 ^ 53) ≤ mantissa * 2 ^ exponent ∧
      mantissa * 2 ^ exponent ≤ x * (1 + 1 / 2 ^ 53) := by
  have herror := abs_le.mp h.error_le
  constructor
  · rw [mul_sub, mul_one, mul_one_div]
    linarith [herror.1]
  · rw [mul_add, mul_one, mul_one_div]
    linarith [herror.2]

/-- A fraction of the binade of `k`, in steps of this binade, is rounded to at least 53 bits, and
it has one bit more only if it is rounded up to a power of two.  It stays at most half a step
away. -/
theorem roundHalfEven_steps {num den : ℕ} (hden : 0 < den) {k : ℤ} (h : InBinade (num / den) k) :
    let rounded := roundHalfEven (num * power 2 (-(k - 52))) (den * power 2 (k - 52))
    2 ^ 52 ≤ rounded ∧ rounded ≤ 2 ^ 53 ∧
      |(rounded : ℚ) * 2 ^ (k - 52) - num / den| ≤ 2 ^ (k - 53) := by
  have hden' : 0 < den * power 2 (k - 52) := Nat.mul_pos hden (power_pos two_pos _)
  have hratio := scaled_div two_pos num den (-(k - 52))
  rw [neg_neg] at hratio
  generalize num * power 2 (-(k - 52)) = num' at hratio ⊢
  generalize den * power 2 (k - 52) = den' at hden' hratio ⊢
  intro rounded
  have hpos : (0 : ℚ) < den' := by exact_mod_cast hden'
  have hstep : (0 : ℚ) < 2 ^ (k - 52) := by positivity
  have hx : (num' / den' : ℚ) * 2 ^ (k - 52) = num / den := by
    rw [hratio, mul_assoc, Nat.cast_two, ← zpow_add₀ two_ne_zero, neg_add_cancel, zpow_zero,
      mul_one]
  have herror := roundHalfEven_error num' hden'
  have hlow : (2 : ℚ) ^ 52 ≤ num' / den' := by
    refine le_of_mul_le_mul_right ?_ hstep
    rw [hx, ← zpow_natCast, ← zpow_add₀ two_ne_zero, Nat.cast_ofNat, add_sub_cancel]
    exact h.1
  have hhigh : (num' / den' : ℚ) < 2 ^ 53 := by
    refine lt_of_mul_lt_mul_right ?_ hstep.le
    rw [hx, ← zpow_natCast, ← zpow_add₀ two_ne_zero,
      show ((53 : ℕ) : ℤ) + (k - 52) = k + 1 by omega]
    exact h.2
  have hbounds : (2 ^ 52 : ℚ) - 1 < rounded ∧ (rounded : ℚ) < 2 ^ 53 + 1 := by
    have := abs_le.mp herror
    constructor <;> linarith
  refine ⟨?_, ?_, ?_⟩
  · have : (2 ^ 52 : ℚ) < rounded + 1 := by linarith [hbounds.1]
    exact Nat.lt_succ_iff.mp (by exact_mod_cast this)
  · exact Nat.lt_succ_iff.mp (by exact_mod_cast hbounds.2)
  · have hhalf : (2 : ℚ) ^ (k - 53) = 1 / 2 * 2 ^ (k - 52) := by
      rw [show k - 52 = 1 + (k - 53) by ring, zpow_add₀ two_ne_zero, zpow_one]
      ring
    rw [← hx, ← sub_mul, abs_mul, abs_of_pos hstep, hhalf]
    exact mul_le_mul_of_nonneg_right herror hstep.le

/-- A mantissa and an exponent that are close to `x`, unless the exponent is too great. -/
theorem rounds_of_error {k : ℤ} (hbinade : InBinade x k) (hlow : 2 ^ 52 ≤ mantissa)
    (hhigh : mantissa < 2 ^ 53) (hstep : k - 52 ≤ exponent)
    (herror : |mantissa * 2 ^ exponent - x| ≤ 2 ^ (k - 53)) :
    Rounds negative x
      (if maxExponent < exponent then .infinite negative
        else .finite negative mantissa exponent) := by
  split
  · next hgreat =>
    refine .infinite ?_
    have hexponent : (972 : ℤ) ≤ exponent := hgreat
    have hmantissa : (2 ^ 52 : ℚ) ≤ mantissa := by exact_mod_cast hlow
    calc (2 : ℚ) ^ 1024 = (2 : ℚ) ^ 52 * (2 : ℚ) ^ (972 : ℤ) := by
          rw [← zpow_natCast, ← zpow_natCast, ← zpow_add₀ two_ne_zero]
          rfl
      _ ≤ (mantissa : ℚ) * 2 ^ exponent := by
          gcongr
          exact one_le_two
      _ ≤ x + 2 ^ (k - 53) := by
          rw [← sub_le_iff_le_add']
          exact le_of_abs_le herror
      _ ≤ x + x / 2 ^ 53 := by
          gcongr
          exact hbinade.half_step_le
  · next hsmall => exact .finite hbinade hlow hhigh hstep (not_lt.mp hsmall) herror

theorem ofRatio_rounds (negative : Bool) {num den : ℕ} (hden : 0 < den) (hle : den ≤ num) :
    Rounds negative (num / den) (ofRatio negative num den) := by
  have hnum : 0 < num := Nat.lt_of_lt_of_le hden hle
  have hpos : (0 : ℚ) < den := by exact_mod_cast hden
  have hbinade := inBinade_floorLog2 hnum hden
  rw [ofRatio, if_neg hnum.ne']
  generalize floorLog2 num den = k at hbinade
  have hk : 0 ≤ k := by
    have hone : (2 : ℚ) ^ (0 : ℤ) ≤ num / den := by
      rw [zpow_zero, one_le_div hpos]
      exact_mod_cast hle
    have hlt := lt_of_le_of_lt hone hbinade.2
    rw [zpow_lt_zpow_iff_right₀ (by norm_num)] at hlt
    omega
  have hexponent : max (k - ((precision - 1 : ℕ) : ℤ)) minExponent = k - 52 := by
    simp only [precision, minExponent]
    omega
  obtain ⟨hlow, hhigh, herror⟩ := roundHalfEven_steps hden hbinade
  dsimp only
  rw [hexponent]
  generalize roundHalfEven (num * power 2 (-(k - 52))) (den * power 2 (k - 52)) = rounded at *
  by_cases hcarry : rounded = power 2 precision
  · have hvalue : ((2 ^ 52 : ℕ) : ℚ) * 2 ^ (k - 52 + 1) = rounded * 2 ^ (k - 52) := by
      rw [hcarry, power_natCast, precision, zpow_add_one₀ two_ne_zero]
      push_cast
      ring
    rw [if_pos hcarry]
    have hless : 2 ^ 52 < 2 ^ 53 := by norm_num
    exact rounds_of_error hbinade le_rfl hless (by omega) (hvalue ▸ herror)
  · have hless : rounded < 2 ^ 53 := lt_of_le_of_ne hhigh hcarry
    rw [if_neg hcarry]
    exact rounds_of_error hbinade hlow hless le_rfl herror

theorem ofNat_rounds {n : ℕ} (hn : 0 < n) : Rounds false n (ofNat n) := by
  have h := ofRatio_rounds false one_pos (Nat.succ_le_of_lt hn)
  rwa [Nat.cast_one, div_one] at h

/-- A product is rounded once. -/
theorem mulPos_rounds {m n : ℕ} {e f : ℤ} (s t : Bool)
    (hone : 1 ≤ (m * 2 ^ e : ℚ) * (n * 2 ^ f)) :
    Rounds false (m * 2 ^ e * (n * 2 ^ f)) (mulPos (.finite s m e) (.finite t n f)) := by
  have hden : 0 < power 2 (-(e + f)) := power_pos two_pos _
  have hvalue : ((m * n * power 2 (e + f) : ℕ) : ℚ) / (power 2 (-(e + f)) : ℕ) =
      m * 2 ^ e * (n * 2 ^ f) := by
    rw [Nat.cast_mul, mul_div_assoc, power_div two_pos, Nat.cast_two, zpow_add₀ two_ne_zero]
    push_cast
    ring
  have hle : power 2 (-(e + f)) ≤ m * n * power 2 (e + f) := by
    rw [← hvalue, one_le_div (by exact_mod_cast hden)] at hone
    exact_mod_cast hone
  have h := ofRatio_rounds false hden hle
  rwa [hvalue] at h

/-! ### Numbers with 53 bits -/

theorem inBinade_of_mantissa (hlow : 2 ^ 52 ≤ mantissa) (hhigh : mantissa < 2 ^ 53) :
    InBinade (mantissa * 2 ^ exponent) (exponent + 52) := by
  have hlow' : (2 ^ 52 : ℚ) ≤ mantissa := by exact_mod_cast hlow
  have hhigh' : (mantissa : ℚ) < 2 ^ 53 := by exact_mod_cast hhigh
  constructor
  · rw [zpow_add₀ two_ne_zero, mul_comm]
    gcongr
    exact hlow'
  · rw [add_assoc, zpow_add₀ two_ne_zero, mul_comm ((2 : ℚ) ^ exponent)]
    gcongr
    exact hhigh'

/-- A number that has 53 bits is not changed. -/
theorem Rounds.exact {m : ℕ} {e : ℤ} (hlow : 2 ^ 52 ≤ m) (hhigh : m < 2 ^ 53)
    (h : Rounds negative (m * 2 ^ e) (.finite negative mantissa exponent)) :
    (mantissa * 2 ^ exponent : ℚ) = m * 2 ^ e := by
  cases h with
  | @finite k _ _ hbinade _ _ hstep _ herror =>
    obtain rfl : k = e + 52 := hbinade.unique (inBinade_of_mantissa hlow hhigh)
    obtain ⟨d, hd⟩ := Int.eq_ofNat_of_zero_le (show 0 ≤ exponent - e by omega)
    obtain rfl : exponent = e + d := by omega
    have hpos : (0 : ℚ) < 2 ^ e := by positivity
    -- both are multiples of the step, so that they are equal or at least one step apart
    have hsteps : (mantissa * 2 ^ (e + d) - m * 2 ^ e : ℚ) =
        ((mantissa * 2 ^ d - m : ℤ) : ℚ) * 2 ^ e := by
      rw [zpow_add₀ two_ne_zero, zpow_natCast]
      push_cast
      ring
    have hhalf : (2 : ℚ) ^ (e + 52 - 53) = 1 / 2 * 2 ^ e := by
      rw [show e + 52 - 53 = e - 1 by ring, zpow_sub_one₀ two_ne_zero]
      ring
    rw [hsteps, abs_mul, abs_of_pos hpos, hhalf, mul_le_mul_iff_left₀ hpos] at herror
    have hzero : (mantissa * 2 ^ d - m : ℤ) = 0 := by
      rw [← Int.abs_lt_one_iff]
      have hless : |((mantissa * 2 ^ d - m : ℤ) : ℚ)| < 1 := by linarith
      exact_mod_cast hless
    rw [← sub_eq_zero, hsteps, hzero, Int.cast_zero, zero_mul]

/-! ### Whole numbers -/

/-- A number that has at least 53 bits in front of the point has none behind it. -/
theorem Rounds.exponent_nonneg (h : Rounds negative x (.finite negative mantissa exponent))
    (hx : 2 ^ 52 ≤ x) : 0 ≤ exponent := by
  cases h with
  | @finite k _ _ hbinade _ _ hstep =>
    have hlt : (2 : ℚ) ^ (52 : ℤ) < 2 ^ (k + 1) := lt_of_le_of_lt hx hbinade.2
    rw [zpow_lt_zpow_iff_right₀ (by norm_num)] at hlt
    omega

theorem Rounds.lt (h : Rounds negative x (.finite negative mantissa exponent)) :
    (mantissa * 2 ^ exponent : ℚ) < 2 ^ 1024 := by
  cases h with
  | finite _ _ hhigh _ hmax =>
    have hhigh' : (mantissa : ℚ) < 2 ^ 53 := by exact_mod_cast hhigh
    calc (mantissa * 2 ^ exponent : ℚ) < 2 ^ 53 * 2 ^ exponent := by gcongr
      _ ≤ (2 : ℚ) ^ 53 * (2 : ℚ) ^ (971 : ℤ) := by
          gcongr
          · exact one_le_two
          · exact hmax
      _ = 2 ^ 1024 := by
          rw [← zpow_natCast, ← zpow_natCast, ← zpow_add₀ two_ne_zero]
          rfl

theorem whole?_of_nonneg (h : 0 ≤ exponent) :
    (Binary64.finite negative mantissa exponent).whole? = some (mantissa * 2 ^ exponent.toNat) := by
  obtain ⟨n, rfl⟩ := Int.eq_ofNat_of_zero_le h
  simp only [whole?, power_natCast, power_neg_natCast, Nat.mod_one, if_true, Nat.div_one,
    Int.toNat_natCast]

end SqlNotebook.Binary64
