import LoxLexer.Binary64.Nearest
import Mathlib.Algebra.Order.Field.Power
import Mathlib.Data.Rat.Cast.Order
import Mathlib.Tactic.FieldSimp
import Mathlib.Tactic.Linarith
import Mathlib.Tactic.Positivity
import Mathlib.Tactic.Ring

/-! # The values of the binary64 format

`Binary64.value` reads a finite pattern as the format lays it down, `NearestEven q x` says that `x`
is `q` rounded to nearest, ties to even. Values are compared in units (`value_eq`): magnitudes
grow with their patterns (`units_lt_units`), so that two neighbours have no number between them and
exactly one of them is even. A rational therefore has at most one rounding (`NearestEven.unique`).
-/

set_option autoImplicit false

namespace LoxLexer

namespace Binary64

/-- What a finite pattern stands for. The least exponent field is that of zero and the subnormal
numbers, which have no leading bit. -/
def value (x : Binary64) : ℚ :=
  (if x.isNegative then -1 else 1) *
    if x.exponentField = 0 then x.fraction / 2 ^ 52 * (2 : ℚ) ^ (-1022 : ℤ)
    else (1 + x.fraction / 2 ^ 52) * (2 : ℚ) ^ ((x.exponentField : ℤ) - 1023)

/-- `x` is the non-negative rational `q` rounded to nearest: no finite number is nearer and, where
another one is as near, the last bit of `x` is zero. -/
structure NearestEven (q : ℚ) (x : Binary64) : Prop where
  finite : x.isFinite = true
  sign : x.isNegative = false
  nearest : ∀ y : Binary64, y.isFinite = true → |q - x.value| ≤ |q - y.value|
  even : ∀ y : Binary64, y.isFinite = true → y.value ≠ x.value →
    |q - y.value| = |q - x.value| → Even x.significand

/-! ## Values in units -/

/-- The value of one unit. -/
def unit : ℚ := 2 ^ (-1074 : ℤ)

theorem unit_pos : 0 < unit := zpow_pos (by norm_num) _

theorem two_pow_mul_unit (k : Nat) : (2 : ℚ) ^ (k + 1074) * unit = 2 ^ k := by
  have hexp : ((k + 1074 : Nat) : ℤ) + -1074 = k := by omega
  rw [unit, ← zpow_natCast, ← zpow_add₀ two_ne_zero, hexp, zpow_natCast]

theorem units_eq (x : Binary64) : x.units = x.significand * 2 ^ x.gap := by
  rw [units, Nat.shiftLeft_eq]

/-- A value is its units with the sign. -/
theorem value_eq (x : Binary64) :
    x.value = (if x.isNegative then -1 else 1) * (x.units * unit) := by
  rw [value, units_eq, significand, gap, unit]
  congr 1
  by_cases h : x.exponentField = 0
  · have hexp : (2 : ℚ) ^ (-1022 : ℤ) = 2 ^ 52 * 2 ^ (-1074 : ℤ) := by
      rw [← zpow_natCast, ← zpow_add₀ two_ne_zero]
      rfl
    rw [if_pos h, if_pos h, h, hexp]
    field_simp
    simp
  · have hexp : (2 : ℚ) ^ ((x.exponentField : ℤ) - 1023) =
        2 ^ 52 * (2 ^ (x.exponentField - 1) * 2 ^ (-1074 : ℤ)) := by
      rw [← zpow_natCast, ← zpow_natCast, ← zpow_add₀ two_ne_zero, ← zpow_add₀ two_ne_zero]
      congr 1
      omega
    rw [if_neg h, if_neg h, hexp, Nat.cast_mul, Nat.cast_add, Nat.cast_pow]
    have hcount : (fractionCount : ℚ) = 2 ^ 52 := by norm_num [fractionCount]
    rw [hcount]
    field_simp
    push_cast
    ring

/-- The value of a number without a sign. -/
theorem value_of_nonneg {x : Binary64} (h : x.isNegative = false) :
    x.value = x.units * unit := by
  rw [value_eq, h]
  simp

/-! ## The order of the magnitudes -/

theorem fraction_lt (x : Binary64) : x.fraction < fractionCount :=
  Nat.mod_lt _ (by decide)

/-- The finite numbers are those whose pattern is below the infinite ones. -/
theorem isFinite_iff {x : Binary64} : x.isFinite = true ↔ x.magnitude < infinityPattern := by
  have hf := x.fraction_lt
  have he : x.exponentField < exponentCount := Nat.mod_lt _ (by decide)
  rw [magnitude_eq, isFinite, bne_iff_ne, infinityPattern, topExponent]
  rw [exponentCount] at he ⊢
  rw [fractionCount] at hf ⊢
  omega

theorem units_lt_two_pow (x : Binary64) : x.units < 2 ^ (52 + x.exponentField) := by
  have hf := x.fraction_lt
  rw [units_eq, significand, gap]
  split
  · next h => simpa [h, fractionCount] using hf
  · next h =>
    have hs : fractionCount + x.fraction < 2 ^ 53 := by
      rw [fractionCount] at hf ⊢
      omega
    have hexp : 52 + x.exponentField = 53 + (x.exponentField - 1) := by omega
    rw [hexp, pow_add]
    exact Nat.mul_lt_mul_of_pos_right hs (by positivity)

theorem two_pow_le_units {x : Binary64} (h : x.exponentField ≠ 0) :
    2 ^ (51 + x.exponentField) ≤ x.units := by
  have hexp : 51 + x.exponentField = 52 + (x.exponentField - 1) := by omega
  rw [units_eq, significand, gap, if_neg h, hexp, pow_add]
  exact Nat.mul_le_mul_right _ (Nat.le_add_right _ _)

/-- **Magnitudes grow with their patterns.** -/
theorem units_lt_units {x y : Binary64} (h : x.magnitude < y.magnitude) : x.units < y.units := by
  have hx := x.fraction_lt
  have hy := y.fraction_lt
  rw [magnitude_eq, magnitude_eq, fractionCount] at h
  rw [fractionCount] at hx hy
  by_cases he : x.exponentField = y.exponentField
  · rw [units_eq, units_eq, gap, gap, significand, significand, he]
    apply Nat.mul_lt_mul_of_pos_right _ (by positivity)
    split <;> omega
  · have hlt : x.exponentField < y.exponentField := by omega
    calc x.units < 2 ^ (52 + x.exponentField) := x.units_lt_two_pow
      _ ≤ 2 ^ (51 + y.exponentField) := Nat.pow_le_pow_right (by norm_num) (by omega)
      _ ≤ y.units := two_pow_le_units (by omega)

theorem value_lt_value {x y : Binary64} (hx : x.isNegative = false) (hy : y.isNegative = false)
    (h : x.magnitude < y.magnitude) : x.value < y.value := by
  rw [value_of_nonneg hx, value_of_nonneg hy]
  exact mul_lt_mul_of_pos_right (Nat.cast_lt.2 (units_lt_units h)) unit_pos

/-- The pattern of a number without a sign. -/
theorem magnitude_of_nonneg {x : Binary64} (h : x.isNegative = false) :
    x.magnitude = x.bits.toNat := by
  rw [isNegative, decide_eq_false_iff_not] at h
  exact Nat.mod_eq_of_lt (by omega)

theorem eq_of_magnitude_eq {x y : Binary64} (hx : x.isNegative = false)
    (hy : y.isNegative = false) (h : x.magnitude = y.magnitude) : x = y := by
  rw [magnitude_of_nonneg hx, magnitude_of_nonneg hy] at h
  cases x
  cases y
  congr 1
  exact UInt64.toNat_inj.1 h

/-- The last bit of the pattern is that of the significand. -/
theorem even_significand {x : Binary64} : Even x.significand ↔ Even x.magnitude := by
  rw [Nat.even_iff, Nat.even_iff, magnitude_eq, significand, fractionCount]
  split <;> omega

/-! ## Patterns that are small enough -/

theorem toNat_ofNat {p : Nat} (h : p ≤ infinityPattern) : (UInt64.ofNat p).toNat = p := by
  rw [UInt64.toNat_ofNat']
  rw [infinityPattern, topExponent, exponentCount, fractionCount] at h
  exact Nat.mod_eq_of_lt (by omega)

theorem isNegative_ofNat {p : Nat} (h : p ≤ infinityPattern) :
    (⟨UInt64.ofNat p⟩ : Binary64).isNegative = false := by
  rw [isNegative, toNat_ofNat h, decide_eq_false_iff_not]
  rw [infinityPattern, topExponent, exponentCount, fractionCount] at h
  rw [signWeight, exponentCount, fractionCount]
  omega

theorem magnitude_ofNat {p : Nat} (h : p ≤ infinityPattern) :
    (⟨UInt64.ofNat p⟩ : Binary64).magnitude = p := by
  rw [magnitude_of_nonneg (isNegative_ofNat h), toNat_ofNat h]

/-! ## Rounding is unique -/

/-- Of two distinct numbers that are as near to `q`, both nearest, one is odd: it is the number
next to the smaller one. -/
theorem NearestEven.not_magnitude_lt {q : ℚ} {x y : Binary64} (hx : NearestEven q x)
    (hy : NearestEven q y) : ¬ x.magnitude < y.magnitude := by
  intro hlt
  have hxy := value_lt_value hx.sign hy.sign hlt
  have hd : |q - x.value| = |q - y.value| :=
    le_antisymm (hx.nearest y hy.finite) (hy.nearest x hx.finite)
  have hex := even_significand.1 (hx.even y hy.finite hxy.ne' hd.symm)
  have hey := even_significand.1 (hy.even x hx.finite hxy.ne hd)
  have hyf := isFinite_iff.1 hy.finite
  have hp : x.magnitude + 1 ≤ infinityPattern := by omega
  -- the number next to `x` lies between the two, so it is nearer to `q` than they are
  let z : Binary64 := ⟨UInt64.ofNat (x.magnitude + 1)⟩
  have hz : z.magnitude = x.magnitude + 1 := magnitude_ofNat hp
  have hzs : z.isNegative = false := isNegative_ofNat hp
  have hzy : z.magnitude < y.magnitude := by
    rw [Nat.even_iff] at hex hey
    omega
  have hxz : x.value < z.value := value_lt_value hx.sign hzs (by omega)
  have hzy : z.value < y.value := value_lt_value hzs hy.sign hzy
  have hzf : z.isFinite = true := isFinite_iff.2 (by omega)
  have hmid : q - x.value = y.value - q := by
    rcases abs_eq_abs.1 hd with h | h <;> linarith
  have hnear := hx.nearest z hzf
  rw [abs_of_nonneg (by linarith : 0 ≤ q - x.value), le_abs'] at hnear
  rcases hnear with h | h <;> linarith

/-- **A rational has no more than one rounding.** -/
theorem NearestEven.unique {q : ℚ} {x y : Binary64} (hx : NearestEven q x)
    (hy : NearestEven q y) : x = y := by
  apply eq_of_magnitude_eq hx.sign hy.sign
  have hxy := hx.not_magnitude_lt hy
  have hyx := hy.not_magnitude_lt hx
  omega

end Binary64

end LoxLexer
