import LoxLexer.Proofs.Binary64.Rounding

/-! # Neighbouring numbers

The next number away from zero is one `gap` away (`units_add_gap_le`), the next one towards zero as
far away as its own gap says (`units_add_gapBelow_le`), which is half as much below a power of two.
Up to half way to its neighbours a number is what the rationals round to
(`nearestEven_of_between`), and rounding keeps the order between a rational and the numbers of the
format (`NearestEven.le_of_le_value`).
-/

set_option autoImplicit false

namespace LoxLexer

namespace Binary64

/-! ## The distances to the neighbours -/

theorem units_add_gap_le_two_pow (x : Binary64) :
    x.units + 2 ^ x.gap ≤ 2 ^ (52 + x.exponentField) := by
  have hf := x.fraction_lt
  rw [units_eq, significand, gap]
  split
  · next h =>
    rw [h, fractionCount] at *
    omega
  · next h =>
    have hs : fractionCount + x.fraction + 1 ≤ 2 ^ 53 := by
      rw [fractionCount] at hf ⊢
      omega
    have hexp : 52 + x.exponentField = 53 + (x.exponentField - 1) := by omega
    rw [hexp, pow_add, ← Nat.succ_mul]
    exact Nat.mul_le_mul_right _ hs

/-- **The next number away from zero** is one gap away. -/
theorem units_add_gap_le {x y : Binary64} (h : x.magnitude < y.magnitude) :
    x.units + 2 ^ x.gap ≤ y.units := by
  have hx := x.fraction_lt
  have hy := y.fraction_lt
  rw [magnitude_eq, magnitude_eq, fractionCount] at h
  rw [fractionCount] at hx hy
  by_cases he : x.exponentField = y.exponentField
  · rw [units_eq, units_eq, gap, gap, significand, significand, he, ← Nat.succ_mul]
    apply Nat.mul_le_mul_right
    split <;> omega
  · have hlt : x.exponentField < y.exponentField := by omega
    calc x.units + 2 ^ x.gap ≤ 2 ^ (52 + x.exponentField) := x.units_add_gap_le_two_pow
      _ ≤ 2 ^ (51 + y.exponentField) := Nat.pow_le_pow_right (by norm_num) (by omega)
      _ ≤ y.units := two_pow_le_units (by omega)

theorem units_of_succ {x y : Binary64} (h : y.magnitude = x.magnitude + 1) :
    y.units = x.units + 2 ^ x.gap := by
  apply Nat.le_antisymm _ (units_add_gap_le (by omega))
  have hx := x.fraction_lt
  have hy := y.fraction_lt
  rw [magnitude_eq, magnitude_eq, fractionCount] at h
  rw [fractionCount] at hx hy
  by_cases he : x.exponentField = y.exponentField
  · rw [units_eq, units_eq, gap, gap, significand, significand, he, ← Nat.succ_mul]
    apply Nat.mul_le_mul_right
    split <;> omega
  · -- the fraction of the next number starts again at zero
    have hexponent : y.exponentField = x.exponentField + 1 := by omega
    have hfraction : y.fraction = 0 := by omega
    have hbelow : 2 ^ 52 * 2 ^ x.exponentField ≤ (x.significand + 1) * 2 ^ x.gap := by
      rw [significand, gap]
      split
      · next hzero =>
        rw [hzero]
        omega
      · next hne =>
        obtain ⟨k, hk⟩ := Nat.exists_eq_add_one_of_ne_zero hne
        have hdouble : 2 ^ 52 * 2 ^ (k + 1) = 2 ^ 53 * 2 ^ k := by
          rw [← pow_add, ← pow_add]
          congr 1
          omega
        rw [hk, Nat.add_sub_cancel, hdouble, fractionCount]
        exact Nat.mul_le_mul_right _ (by omega)
    rw [units_eq, units_eq, ← Nat.succ_mul, significand, gap, hexponent, hfraction,
      if_neg (Nat.succ_ne_zero _), Nat.add_sub_cancel]
    exact hbelow

/-- How many doublings there are from one unit to the distance of the next number towards zero. -/
def gapBelow (x : Binary64) : Nat :=
  if x.fraction = 0 ∧ 1 < x.exponentField then x.gap - 1 else x.gap

/-- It is the gap of that number. -/
theorem gap_of_succ {x y : Binary64} (h : y.magnitude + 1 = x.magnitude) : y.gap = x.gapBelow := by
  have hx := x.fraction_lt
  have hy := y.fraction_lt
  rw [magnitude_eq, magnitude_eq, fractionCount] at h
  rw [fractionCount] at hx hy
  rw [gapBelow, gap, gap]
  split <;> omega

theorem units_le_units {x y : Binary64} (h : x.magnitude ≤ y.magnitude) : x.units ≤ y.units := by
  rcases Nat.lt_or_eq_of_le h with hlt | heq
  · exact (units_lt_units hlt).le
  · have hx := x.fraction_lt
    have hy := y.fraction_lt
    rw [magnitude_eq, magnitude_eq, fractionCount] at heq
    rw [fractionCount] at hx hy
    have hexp : x.exponentField = y.exponentField := by omega
    have hfraction : x.fraction = y.fraction := by omega
    rw [units, units, significand, significand, gap, gap, hexp, hfraction]

/-- **The next number towards zero** is one gap of its own away. -/
theorem units_add_gapBelow_le {x y : Binary64} (h : y.magnitude < x.magnitude)
    (hfinite : x.isFinite = true) : y.units + 2 ^ x.gapBelow ≤ x.units := by
  have hx := isFinite_iff.1 hfinite
  have hp : x.magnitude - 1 ≤ infinityPattern := by omega
  let z : Binary64 := ⟨UInt64.ofNat (x.magnitude - 1)⟩
  have hz : z.magnitude = x.magnitude - 1 := magnitude_ofNat hp
  rw [← gap_of_succ (by omega : z.magnitude + 1 = x.magnitude)]
  calc y.units + 2 ^ z.gap ≤ z.units + 2 ^ z.gap :=
        Nat.add_le_add_right (units_le_units (by omega)) _
    _ ≤ x.units := units_add_gap_le (by omega)

/-! ## The values of the neighbours -/

theorem value_le_units (y : Binary64) : y.value ≤ y.units * unit := by
  have hpos : 0 ≤ y.units * unit := mul_nonneg (Nat.cast_nonneg _) unit_pos.le
  rw [value_eq]
  split
  · linarith
  · rw [one_mul]

theorem value_of_negative {y : Binary64} (h : y.isNegative = true) : y.value ≤ 0 := by
  have hpos : 0 ≤ y.units * unit := mul_nonneg (Nat.cast_nonneg _) unit_pos.le
  rw [value_eq, if_pos h]
  linarith

theorem magnitude_lt_of_value_lt {x y : Binary64} (hy : y.isNegative = false)
    (h : x.value < y.value) (hx : x.isNegative = false) : x.magnitude < y.magnitude := by
  by_contra hle
  have hunits : (y.units : ℚ) ≤ x.units := Nat.cast_le.2 (units_le_units (not_lt.1 hle))
  rw [value_of_nonneg hx, value_of_nonneg hy, mul_lt_mul_iff_of_pos_right unit_pos] at h
  exact absurd h (not_lt.2 hunits)

theorem eq_of_value_eq {x y : Binary64} (hx : x.isNegative = false) (hy : y.isNegative = false)
    (h : x.value = y.value) : x = y := by
  apply eq_of_magnitude_eq hx hy
  rcases Nat.lt_trichotomy x.magnitude y.magnitude with hlt | heq | hlt
  · exact absurd h (value_lt_value hx hy hlt).ne
  · exact heq
  · exact absurd h (value_lt_value hy hx hlt).ne'

section
variable {x : Binary64} (hsign : x.isNegative = false)
include hsign

theorem value_add_gap_le {y : Binary64} (h : x.value < y.value) :
    x.value + 2 ^ x.gap * unit ≤ y.value := by
  have hx : 0 ≤ x.value := by
    rw [value_of_nonneg hsign]
    exact mul_nonneg (Nat.cast_nonneg _) unit_pos.le
  have hy : y.isNegative = false := by
    by_contra hneg
    have hle := value_of_negative (eq_true_of_ne_false hneg)
    linarith
  have hunits : (x.units + 2 ^ x.gap : ℚ) ≤ y.units := by
    exact_mod_cast units_add_gap_le (magnitude_lt_of_value_lt hy h hsign)
  rw [value_of_nonneg hsign, value_of_nonneg hy, ← add_mul]
  exact mul_le_mul_of_nonneg_right hunits unit_pos.le

variable (hfinite : x.isFinite = true) (hpos : 0 < x.magnitude)
include hfinite hpos

theorem value_add_gapBelow_le {y : Binary64} (h : y.value < x.value) :
    y.value + 2 ^ x.gapBelow * unit ≤ x.value := by
  obtain ⟨z, hz, hlt⟩ : ∃ z : Binary64, y.value ≤ z.units * unit ∧ z.magnitude < x.magnitude := by
    by_cases hneg : y.isNegative = true
    · refine ⟨⟨0⟩, (value_of_negative hneg).trans ?_, hpos⟩
      exact mul_nonneg (Nat.cast_nonneg _) unit_pos.le
    · exact ⟨y, y.value_le_units,
        magnitude_lt_of_value_lt hsign h (eq_false_of_ne_true hneg)⟩
  have hunits : (z.units + 2 ^ x.gapBelow : ℚ) ≤ x.units := by
    exact_mod_cast units_add_gapBelow_le hlt hfinite
  have hscaled := mul_le_mul_of_nonneg_right hunits unit_pos.le
  rw [value_of_nonneg hsign]
  linarith

/-! ## Rationals near a number -/

/-- **A number is what the rationals around it round to**, up to half way to its neighbours, and as
far as that if its last bit is zero. -/
theorem nearestEven_of_between {q : ℚ} (hlow : x.value - 2 ^ x.gapBelow * unit / 2 ≤ q)
    (hhigh : q ≤ x.value + 2 ^ x.gap * unit / 2)
    (hends : q = x.value - 2 ^ x.gapBelow * unit / 2 ∨ q = x.value + 2 ^ x.gap * unit / 2 →
      Even x.significand) : NearestEven q x := by
  -- what is known of a number on either side, whether it is nearer or as near
  have hfar : ∀ y : Binary64, y.value ≠ x.value →
      |q - x.value| ≤ |q - y.value| ∧
        (|q - y.value| = |q - x.value| → Even x.significand) := by
    intro y hne
    rcases lt_or_gt_of_ne hne with hlt | hlt
    · have hgap := value_add_gapBelow_le hsign hfinite hpos hlt
      rw [abs_of_nonneg (by linarith : 0 ≤ q - y.value)]
      refine ⟨abs_le.2 ⟨by linarith, by linarith⟩, fun heq => hends (.inl ?_)⟩
      rcases abs_cases (q - x.value) with ⟨habs, -⟩ | ⟨habs, -⟩ <;> linarith
    · have hgap := value_add_gap_le hsign hlt
      rw [abs_of_nonpos (by linarith : q - y.value ≤ 0)]
      refine ⟨abs_le.2 ⟨by linarith, by linarith⟩, fun heq => hends (.inr ?_)⟩
      rcases abs_cases (q - x.value) with ⟨habs, -⟩ | ⟨habs, -⟩ <;> linarith
  refine ⟨hfinite, hsign, fun y _ => ?_, fun y _ hne => (hfar y hne).2⟩
  by_cases heq : y.value = x.value
  · rw [heq]
  · exact (hfar y heq).1

end

/-- Half way up from a number of the highest exponent. -/
theorem half_gap_of_top {x : Binary64} (hsign : x.isNegative = false)
    (htop : x.exponentField = 2046) :
    x.value + 2 ^ x.gap * unit / 2 = (x.significand + 1 / 2) * 2 ^ 2045 * unit := by
  have hgap : x.gap = 2045 := by rw [gap, htop]
  rw [value_of_nonneg hsign, units_eq, hgap, Nat.cast_mul, Nat.cast_pow, Nat.cast_ofNat]
  generalize (2 : ℚ) ^ 2045 = a
  ring

/-- Only half way up from the greatest number are the rationals that round to no finite one. -/
theorem lt_of_le_half_gap {x : Binary64} (hfinite : x.isFinite = true)
    (hsign : x.isNegative = false) {q : ℚ} (hhigh : q ≤ x.value + 2 ^ x.gap * unit / 2)
    (hend : q = x.value + 2 ^ x.gap * unit / 2 → Even x.significand) :
    q < 2 ^ 1024 - 2 ^ 970 := by
  have htop : x.exponentField ≤ 2046 := by
    have he : x.exponentField < exponentCount := Nat.mod_lt _ (by decide)
    rw [isFinite, bne_iff_ne, topExponent] at hfinite
    rw [exponentCount] at he hfinite
    omega
  have hpos : (0 : ℚ) < 2 ^ 2045 := pow_pos two_pos _
  rw [two_pow_sub_two_pow]
  by_cases htop' : x.exponentField = 2046
  · have hf := x.fraction_lt
    have hsig : x.significand + 1 ≤ 2 ^ 53 := by
      rw [significand, if_neg (by omega)]
      rw [fractionCount] at hf ⊢
      omega
    rw [half_gap_of_top hsign htop'] at hhigh hend
    by_cases hlast : x.significand + 1 = 2 ^ 53
    · have hodd : ¬ Even x.significand := by
        rw [Nat.even_iff]
        omega
      have hcast : (x.significand + 1 / 2 : ℚ) = 2 ^ 53 - 1 / 2 := by
        have hsum : (x.significand + 1 : ℚ) = 2 ^ 53 := by exact_mod_cast hlast
        linarith
      rw [hcast] at hhigh hend
      exact lt_of_le_of_ne hhigh (mt hend hodd)
    · have hless : (x.significand + 2 : ℚ) ≤ 2 ^ 53 := by
        have hnat : x.significand + 2 ≤ 2 ^ 53 := by omega
        exact_mod_cast hnat
      refine hhigh.trans_lt (mul_lt_mul_of_pos_right (mul_lt_mul_of_pos_right ?_ hpos) unit_pos)
      linarith
  · have hscaled : x.value + 2 ^ x.gap * unit / 2 = (x.units + 2 ^ x.gap / 2) * unit := by
      rw [value_of_nonneg hsign]
      ring
    have hbelow : ∀ k, x.exponentField ≤ k → (x.units + 2 ^ x.gap : ℚ) ≤ 2 ^ 52 * 2 ^ k := by
      intro k hk
      rw [← pow_add]
      exact_mod_cast x.units_add_gap_le_two_pow.trans (Nat.pow_le_pow_right two_pos (by omega))
    have hgap : (0 : ℚ) < 2 ^ x.gap := pow_pos two_pos _
    rw [hscaled] at hhigh
    refine hhigh.trans_lt (mul_lt_mul_of_pos_right ?_ unit_pos)
    calc (x.units + 2 ^ x.gap / 2 : ℚ) < x.units + 2 ^ x.gap := by linarith
      _ ≤ 2 ^ 52 * 2 ^ 2045 := hbelow 2045 (by omega)
      _ ≤ (2 ^ 53 - 1 / 2) * 2 ^ 2045 := mul_le_mul_of_nonneg_right (by norm_num) hpos.le

theorem nearestEven_value {x : Binary64} (hfinite : x.isFinite = true)
    (hsign : x.isNegative = false) : NearestEven x.value x := by
  refine ⟨hfinite, hsign, fun y _ => ?_, fun y _ hne heq => ?_⟩
  · rw [sub_self, abs_zero]
    exact abs_nonneg _
  · rw [sub_self, abs_zero, abs_eq_zero, sub_eq_zero] at heq
    exact absurd heq.symm hne

/-! ## What rounds to a number -/

namespace NearestEven

variable {q : ℚ} {x y : Binary64}

theorem le_middle (h : NearestEven q x) (hy : y.isFinite = true) (hlt : x.value < y.value) :
    q ≤ (x.value + y.value) / 2 := by
  by_contra hfar
  have hnear := h.nearest y hy
  rw [abs_of_nonneg (by linarith : 0 ≤ q - x.value), le_abs'] at hnear
  rcases hnear with hnear | hnear <;> linarith

theorem middle_le (h : NearestEven q x) (hy : y.isFinite = true) (hlt : y.value < x.value) :
    (x.value + y.value) / 2 ≤ q := by
  by_contra hfar
  have hnear := h.nearest y hy
  rw [abs_of_nonpos (by linarith : q - x.value ≤ 0), le_abs'] at hnear
  rcases hnear with hnear | hnear <;> linarith

theorem even_of_middle (h : NearestEven q x) (hy : y.isFinite = true) (hne : y.value ≠ x.value)
    (hq : q = (x.value + y.value) / 2) : Even x.significand := by
  apply h.even y hy hne
  have hopposite : q - y.value = -(q - x.value) := by linarith
  rw [hopposite, abs_neg]

/-- **Rounding keeps the order** between a rational and the numbers of the format. -/
theorem le_of_le_value (h : NearestEven q x) (hy : y.isFinite = true) (hq : q ≤ y.value) :
    x.value ≤ y.value := by
  by_contra hlt
  have hmiddle := h.middle_le hy (not_le.1 hlt)
  linarith

theorem le_of_value_le (h : NearestEven q x) (hy : y.isFinite = true) (hq : y.value ≤ q) :
    y.value ≤ x.value := by
  by_contra hlt
  have hmiddle := h.le_middle hy (not_le.1 hlt)
  linarith

/-- **Rounding keeps the order** of rationals. -/
theorem mono {r : ℚ} (hx : NearestEven q x) (hy : NearestEven r y) (hle : q ≤ r) :
    x.value ≤ y.value := by
  by_contra hlt
  have habove := hx.middle_le hy.finite (not_le.1 hlt)
  have hbelow := hy.le_middle hx.finite (not_le.1 hlt)
  obtain rfl : q = r := by linarith
  exact hlt (hx.unique hy ▸ le_refl _)

/-- What rounds to a number goes up to half way to the next one. -/
theorem le_half_gap (h : NearestEven q x) (hq : q < 2 ^ 1024 - 2 ^ 970) :
    q ≤ x.value + 2 ^ x.gap * unit / 2 ∧
      (q = x.value + 2 ^ x.gap * unit / 2 → Even x.significand) := by
  have hgap : 0 < 2 ^ x.gap * unit := mul_pos (pow_pos two_pos _) unit_pos
  by_cases hnext : x.magnitude + 1 < infinityPattern
  · let y : Binary64 := ⟨UInt64.ofNat (x.magnitude + 1)⟩
    have hmagnitude : y.magnitude = x.magnitude + 1 := magnitude_ofNat hnext.le
    have hfinite : y.isFinite = true := isFinite_iff.2 (by omega)
    have hvalue : y.value = x.value + 2 ^ x.gap * unit := by
      rw [value_of_nonneg (isNegative_ofNat hnext.le), value_of_nonneg h.sign,
        units_of_succ hmagnitude, Nat.cast_add, Nat.cast_pow, Nat.cast_ofNat, add_mul]
    have hmiddle : (x.value + y.value) / 2 = x.value + 2 ^ x.gap * unit / 2 := by
      rw [hvalue]
      ring
    rw [← hmiddle]
    exact ⟨h.le_middle hfinite (by linarith), h.even_of_middle hfinite (by linarith)⟩
  · -- half way up from the greatest number the finite ones end
    have hf := x.fraction_lt
    have hfinite := isFinite_iff.1 h.finite
    have hmagnitude : x.magnitude + 1 = infinityPattern := by omega
    rw [magnitude_eq, infinityPattern, topExponent, exponentCount, fractionCount] at hmagnitude
    rw [fractionCount] at hf
    have htop : x.exponentField = 2046 := by omega
    have hsignificand : x.significand + 1 = 2 ^ 53 := by
      rw [significand, if_neg (by omega), fractionCount]
      omega
    have hcast : (x.significand + 1 / 2 : ℚ) = 2 ^ 53 - 1 / 2 := by
      have hsum : (x.significand + 1 : ℚ) = 2 ^ 53 := by exact_mod_cast hsignificand
      linarith
    rw [half_gap_of_top h.sign htop, hcast, ← two_pow_sub_two_pow]
    exact ⟨hq.le, fun heq => absurd heq hq.ne⟩

/-- What rounds to a number goes down to half way to the next one towards zero. -/
theorem half_gapBelow_le (h : NearestEven q x) (hpos : 0 < x.magnitude) :
    x.value - 2 ^ x.gapBelow * unit / 2 ≤ q ∧
      (q = x.value - 2 ^ x.gapBelow * unit / 2 → Even x.significand) := by
  have hgap : 0 < 2 ^ x.gapBelow * unit := mul_pos (pow_pos two_pos _) unit_pos
  have hx := isFinite_iff.1 h.finite
  have hbound : x.magnitude - 1 ≤ infinityPattern := by omega
  let y : Binary64 := ⟨UInt64.ofNat (x.magnitude - 1)⟩
  have hmagnitude : y.magnitude = x.magnitude - 1 := magnitude_ofNat hbound
  have hfinite : y.isFinite = true := isFinite_iff.2 (by omega)
  have hsucc : y.magnitude + 1 = x.magnitude := by omega
  have hvalue : x.value = y.value + 2 ^ x.gapBelow * unit := by
    rw [value_of_nonneg (isNegative_ofNat hbound), value_of_nonneg h.sign,
      units_of_succ hsucc.symm, gap_of_succ hsucc, Nat.cast_add, Nat.cast_pow, Nat.cast_ofNat,
      add_mul]
  have hmiddle : (x.value + y.value) / 2 = x.value - 2 ^ x.gapBelow * unit / 2 := by
    rw [hvalue]
    ring
  rw [← hmiddle]
  exact ⟨h.middle_le hfinite (by linarith), h.even_of_middle hfinite (by linarith)⟩

end NearestEven

end Binary64

end LoxLexer
