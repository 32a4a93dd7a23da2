import LoxLexer.Decimal.Basic
import LoxLexer.Proofs.Binary64.Rounding

/-! # Decimals are rounded correctly

`Decimal.value` is the rational that a decimal stands for, `Decimal.ofDigits` the one that digits
around a point stand for. Reading digits keeps the value (`value_read`), and the value alone says
what `Decimal.nearest?` finds, however many digits there are.
-/

set_option autoImplicit false

namespace LoxLexer

namespace Decimal

/-- What a decimal stands for. -/
def value (d : Decimal) : ℚ := d.coefficient * 10 ^ d.exponent

/-- What the digits `whole`, a point and the digits `fraction` stand for. -/
def ofDigits (whole fraction : List Char) : ℚ :=
  Nat.ofDigitChars 10 whole 0 + Nat.ofDigitChars 10 fraction 0 / 10 ^ fraction.length

theorem value_read (whole fraction : List Char) :
    (read whole fraction).value = ofDigits whole fraction := by
  have hten : (10 : ℚ) ^ fraction.length ≠ 0 := by positivity
  rw [value, read, ofDigits, zpow_neg, zpow_natCast, Nat.ofDigitChars_append,
    Nat.ofDigitChars_eq_ofDigitChars_zero]
  push_cast
  field_simp

/-- The quotient that is rounded. -/
theorem value_eq_div (d : Decimal) :
    d.value = (d.coefficient * Nat.pow 10 d.exponent.toNat : Nat) /
      (Nat.pow 10 (-d.exponent).toNat : Nat) := by
  have hexp : d.exponent = d.exponent.toNat - (-d.exponent).toNat := by omega
  have hpow : (10 : ℚ) ^ d.exponent =
      10 ^ d.exponent.toNat / 10 ^ (-d.exponent).toNat := by
    rw [← zpow_natCast, ← zpow_natCast, ← zpow_sub₀ (by norm_num), ← hexp]
  rw [value, hpow, ← mul_div_assoc, Nat.pow_eq, Nat.pow_eq]
  push_cast
  rfl

theorem pow_ten_pos (k : Nat) : 0 < Nat.pow 10 k := Nat.pow_pos (by decide)

/-- **No number is found** from halfway between the greatest finite number and the next power of
two on. -/
theorem nearest?_eq_none_iff_le (d : Decimal) :
    d.nearest? = none ↔ (2 : ℚ) ^ 1024 - 2 ^ 970 ≤ d.value := by
  rw [nearest?, Binary64.nearest?_eq_none_iff_le (pow_ten_pos _), value_eq_div]

/-- **The number found is the only correct one.** -/
theorem nearestEven_iff {d : Decimal} {x : Binary64} (h : d.nearest? = some x) (y : Binary64) :
    Binary64.NearestEven d.value y ↔ y = x := by
  rw [nearest?] at h
  have hx : Binary64.NearestEven d.value x := by
    rw [value_eq_div]
    exact Binary64.nearestEven_of_nearest? (pow_ten_pos _) h
  constructor
  · intro hy
    exact hy.unique hx
  · rintro rfl
    exact hx

end Decimal

end LoxLexer
