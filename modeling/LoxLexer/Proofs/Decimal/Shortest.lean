import LoxLexer.Decimal.Shortest
import LoxLexer.Proofs.Binary64.Neighbours
import LoxLexer.Proofs.Decimal.Rounding

/-! # The shortest decimal reads back

The rounding interval of a number reaches half way to its neighbours (`low_mul_tick`,
`high_mul_tick`), so whatever it contains rounds to the number (`nearestEven_of_contains`). The
search looks at grid points in the interval only and ends with the number itself
(`exists_contains_coarsest`). Therefore `nearest?_shortest`: what was found rounds back.
-/

set_option autoImplicit false

namespace LoxLexer

open Binary64

namespace RoundingInterval

/-! ## The interval in rationals -/

/-- What the interval is measured in. -/
def tick : ℚ := 10 ^ (-1075 : ℤ)

theorem tick_pos : 0 < tick := zpow_pos (by norm_num) _

theorem zpow_sub_eq (n : Nat) : (10 : ℚ) ^ ((n : ℤ) - 1075) = 10 ^ n * tick := by
  rw [tick, sub_eq_add_neg, zpow_add₀ (by norm_num), zpow_natCast]

theorem halfUnit_mul_tick : halfUnit * tick = unit / 2 := by
  have hfive : ∀ n : ℕ, (Nat.pow 5 n : ℚ) * 10 ^ (-n : ℤ) = 2 ^ (-n : ℤ) := by
    intro n
    have hcancel : (5 : ℚ) ^ n * 5 ^ (-n : ℤ) = 1 := by
      rw [zpow_neg, zpow_natCast]
      exact mul_inv_cancel₀ (pow_ne_zero _ (by norm_num))
    rw [Nat.pow_eq, Nat.cast_pow, Nat.cast_ofNat, show (10 : ℚ) = 5 * 2 by norm_num, mul_zpow,
      ← mul_assoc, hcancel, one_mul]
  have hunit : (2 : ℚ) ^ (-1074 - 1 : ℤ) = unit / 2 := zpow_sub_one₀ two_ne_zero _
  have hexp : (-1075 : ℤ) = -((1075 : ℕ) : ℤ) := by norm_num
  have hexp' : (-1074 - 1 : ℤ) = -((1075 : ℕ) : ℤ) := by norm_num
  rw [← hunit, hexp', tick, hexp]
  unfold halfUnit
  apply hfive

theorem value_mul_tick {x : Binary64} (hsign : x.isNegative = false) :
    (of x).value * tick = x.value := by
  have hvalue : (of x).value = 2 * x.units * halfUnit := rfl
  rw [hvalue, value_of_nonneg hsign, Nat.cast_mul, mul_assoc, halfUnit_mul_tick]
  push_cast
  ring

theorem high_mul_tick {x : Binary64} (hsign : x.isNegative = false) :
    (of x).high * tick = x.value + 2 ^ x.gap * unit / 2 := by
  have hhigh : (of x).high = (2 * x.units + 1 <<< x.gap) * halfUnit := rfl
  rw [hhigh, value_of_nonneg hsign, Nat.cast_mul, mul_assoc, halfUnit_mul_tick, Nat.one_shiftLeft]
  push_cast
  ring

/-- The ends belong to the even numbers. -/
theorem closed_of_iff {x : Binary64} : (of x).closed = true ↔ Even x.significand := by
  have hclosed : (of x).closed = (x.fraction % 2 == 0) := rfl
  rw [hclosed, beq_iff_eq, Nat.even_iff, significand, fractionCount]
  split <;> omega

section
variable {x : Binary64} (hfinite : x.isFinite = true) (hpos : 0 < x.magnitude)
include hfinite hpos

theorem two_pow_gapBelow_le : 2 ^ x.gapBelow ≤ x.units := by
  have hzero := units_add_gapBelow_le (y := ⟨0⟩) hpos hfinite
  omega

variable (hsign : x.isNegative = false)
include hsign

theorem low_mul_tick : (of x).low * tick = x.value - 2 ^ x.gapBelow * unit / 2 := by
  have hbelow := two_pow_gapBelow_le hfinite hpos
  have hlow : (of x).low = (2 * x.units - 2 ^ x.gapBelow) * halfUnit := by
    have hof : (of x).low = (2 * x.units -
        if x.fraction = 0 ∧ 1 < x.exponentField then 1 <<< (x.gap - 1) else 1 <<< x.gap) *
          halfUnit := rfl
    rw [hof, gapBelow]
    split <;> rw [Nat.one_shiftLeft]
  rw [hlow, value_of_nonneg hsign, Nat.cast_mul, mul_assoc, halfUnit_mul_tick,
    Nat.cast_sub (by omega)]
  push_cast
  ring

/-- **What the interval contains rounds to the number**, and to a finite one. -/
theorem nearestEven_of_contains {m : Nat} (h : (of x).contains m = true) :
    NearestEven (m * tick) x ∧ m * tick < 2 ^ 1024 - 2 ^ 970 := by
  have hbounds : (of x).low ≤ m ∧ m ≤ (of x).high ∧
      (m = (of x).low ∨ m = (of x).high → Even x.significand) := by
    unfold contains at h
    split at h
    · next hclosed =>
      obtain ⟨hlow, hhigh⟩ := of_decide_eq_true h
      exact ⟨hlow, hhigh, fun _ => closed_of_iff.1 hclosed⟩
    · obtain ⟨hlow, hhigh⟩ := of_decide_eq_true h
      exact ⟨hlow.le, hhigh.le, fun hend => by omega⟩
  obtain ⟨hlow, hhigh, hends⟩ := hbounds
  have hcast : ∀ {a b : Nat}, a ≤ b → (a : ℚ) * tick ≤ b * tick := fun hab =>
    mul_le_mul_of_nonneg_right (Nat.cast_le.2 hab) tick_pos.le
  have heq : ∀ {a : Nat}, m * tick = (a : ℚ) * tick → m = a := fun hab =>
    Nat.cast_injective (mul_right_cancel₀ tick_pos.ne' hab)
  have hlow' := hcast hlow
  have hhigh' := hcast hhigh
  rw [low_mul_tick hfinite hpos hsign] at hlow'
  rw [high_mul_tick hsign] at hhigh'
  constructor
  · refine nearestEven_of_between hsign hfinite hpos hlow' hhigh' fun hend => hends ?_
    rw [← low_mul_tick hfinite hpos hsign, ← high_mul_tick hsign] at hend
    exact hend.imp heq heq
  · refine lt_of_le_half_gap hfinite hsign hhigh' fun hend => hends (.inr ?_)
    rw [← high_mul_tick hsign] at hend
    exact heq hend

theorem contains_value : (of x).contains (of x).value = true := by
  have hlow : (of x).low < (of x).value := by
    have hbelow : 0 < 2 ^ x.gapBelow * unit := mul_pos (pow_pos two_pos _) unit_pos
    rw [← Nat.cast_lt (α := ℚ), ← mul_lt_mul_iff_of_pos_right tick_pos,
      low_mul_tick hfinite hpos hsign, value_mul_tick hsign]
    linarith
  have hhigh : (of x).value < (of x).high := by
    have habove : 0 < 2 ^ x.gap * unit := mul_pos (pow_pos two_pos _) unit_pos
    rw [← Nat.cast_lt (α := ℚ), ← mul_lt_mul_iff_of_pos_right tick_pos, high_mul_tick hsign,
      value_mul_tick hsign]
    linarith
  unfold contains
  split
  · exact decide_eq_true ⟨hlow.le, hhigh.le⟩
  · exact decide_eq_true ⟨hlow, hhigh⟩

end

/-! ## The search -/

variable {i : RoundingInterval}

theorem contains_of_onGrid? {step k : Nat} (h : i.onGrid? step = some k) :
    i.contains (k * step) = true := by
  simp only [onGrid?] at h
  cases hlow : i.contains (i.value / step * step) <;>
    cases hhigh : i.contains ((i.value / step + 1) * step) <;>
    simp only [hlow, hhigh] at h
  · cases h
  · cases h
    exact hhigh
  · cases h
    exact hlow
  · split at h
    · cases h
      exact hlow
    · cases h
      exact hhigh

/-- The search finds a point of the interval. -/
theorem exists_contains_coarsest (hvalue : i.contains i.value = true) (n : Nat) :
    ∃ m, i.contains m = true ∧ (i.coarsest n).value = m * tick := by
  induction n with
  | zero => exact ⟨i.value, hvalue, rfl⟩
  | succ n ih =>
    unfold coarsest
    split
    · next k hk =>
      refine ⟨k * Nat.pow 10 (n + 1), contains_of_onGrid? hk, ?_⟩
      rw [Decimal.value, zpow_sub_eq, Nat.pow_eq, Nat.cast_mul, Nat.cast_pow, mul_assoc]
      rfl
    · exact ih

end RoundingInterval

namespace Decimal

open RoundingInterval

theorem exists_nearest? {d : Decimal} (h : d.value < 2 ^ 1024 - 2 ^ 970) :
    ∃ y, d.nearest? = some y := by
  rw [← Option.ne_none_iff_exists', ne_eq, nearest?_eq_none_iff_le, not_le]
  exact h

/-- What a decimal rounds to, by its value. -/
theorem nearest?_eq_some_iff {d : Decimal} {x : Binary64} :
    d.nearest? = some x ↔ NearestEven d.value x ∧ d.value < 2 ^ 1024 - 2 ^ 970 := by
  constructor
  · intro h
    refine ⟨(nearestEven_iff h x).2 rfl, not_le.1 fun hle => ?_⟩
    rw [(nearest?_eq_none_iff_le d).2 hle] at h
    cases h
  · rintro ⟨hnear, hlt⟩
    obtain ⟨y, hy⟩ := exists_nearest? hlt
    rw [hy, (nearestEven_iff hy x).1 hnear]

/-- **The shortest decimal of a number rounds to it.** -/
theorem nearest?_shortest {x : Binary64} (hfinite : x.isFinite = true)
    (hsign : x.isNegative = false) : (shortest x).nearest? = some x := by
  rw [nearest?_eq_some_iff]
  by_cases hzero : x.magnitude = 0
  · have hunits : x.units = 0 := by
      rw [magnitude_eq, fractionCount] at hzero
      rw [units_eq, significand, if_pos (by omega), show x.fraction = 0 by omega, Nat.zero_mul]
    have hvalue : (⟨0, 0⟩ : Decimal).value = x.value := by
      rw [value_of_nonneg hsign, hunits, value]
      simp
    have hgap : 0 < 2 ^ x.gap * unit := mul_pos (pow_pos two_pos _) unit_pos
    rw [shortest, if_pos hzero, hvalue]
    exact ⟨nearestEven_value hfinite hsign,
      lt_of_le_half_gap hfinite hsign (by linarith) fun hend => by linarith⟩
  · have hpos : 0 < x.magnitude := Nat.pos_of_ne_zero hzero
    rw [shortest, if_neg hzero]
    obtain ⟨m, hm, hvalue⟩ := exists_contains_coarsest (contains_value hfinite hpos hsign)
      (coarseGrid ((2 * x.units + (1 <<< x.gap)).log2 + 1))
    rw [hvalue]
    exact nearestEven_of_contains hfinite hpos hsign hm

end Decimal

end LoxLexer
