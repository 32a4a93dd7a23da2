import LoxLexer.Proofs.Binary64.Value

/-! # Rounding to binary64 is correct

Around `n / d` units the numbers of the format are spaced by `2 ^ binade n d` units, or wider, and
the closer ones are all smaller than the binade. `abs_sub_quotient_le` says that the rounded
quotient is then the best of all of them, not only of its own binade.

* `nearestEven_of_nearest?`: the number found is the nearest one, ties to even.
* `nearest?_eq_none_iff_le`: none is found from halfway between the greatest finite number and the
  next power of two on.
-/

set_option autoImplicit false

namespace LoxLexer

/-! ## Natural numbers -/

/-- The rounded quotient is within a half of the quotient, and even where it is a half away. -/
theorem roundHalfEven_near {n d : Nat} (hd : 0 < d) :
    |(n / d : ℚ) - roundHalfEven n d| ≤ 1 / 2 ∧
      (|(n / d : ℚ) - roundHalfEven n d| = 1 / 2 → Even (roundHalfEven n d)) := by
  have hd' : (0 : ℚ) < d := Nat.cast_pos.2 hd
  obtain ⟨t, ht⟩ : ∃ t : ℚ, t = (n % d : Nat) / d := ⟨_, rfl⟩
  have hq : (n / d : ℚ) = (n / d : Nat) + t := by
    rw [ht, div_eq_iff hd'.ne', add_mul, div_mul_cancel₀ _ hd'.ne']
    exact_mod_cast (Nat.div_add_mod' n d).symm
  have ht0 : 0 ≤ t := by rw [ht]; positivity
  have ht1 : t < 1 := by
    rw [ht, div_lt_one hd']
    exact_mod_cast Nat.mod_lt n hd
  have hhalf : t = 2 * (n % d : Nat) / d / 2 := by rw [ht]; ring
  rw [hq, roundHalfEven]
  split
  · next h =>
    have hlt : t < 1 / 2 := by
      rw [hhalf, div_lt_div_iff_of_pos_right two_pos, div_lt_one hd']
      exact_mod_cast h
    rw [add_sub_cancel_left, abs_of_nonneg ht0]
    exact ⟨hlt.le, fun h => absurd h hlt.ne⟩
  · split
    · next h =>
      have hlt : 1 / 2 < t := by
        rw [hhalf, div_lt_div_iff_of_pos_right two_pos, one_lt_div hd']
        exact_mod_cast h
      rw [Nat.cast_add, Nat.cast_one, add_sub_add_left_eq_sub, abs_of_neg (by linarith)]
      exact ⟨by linarith, fun h => by linarith⟩
    · next h h' =>
      have heq : t = 1 / 2 := by
        have hr : 2 * (n % d) = d := by omega
        rw [hhalf, div_left_inj' two_ne_zero, div_eq_one_iff_eq hd'.ne']
        exact_mod_cast hr
      have heven : Even (n / d + n / d % 2) := by
        rw [Nat.even_iff]
        omega
      refine ⟨?_, fun _ => heven⟩
      rw [Nat.cast_add, add_sub_add_left_eq_sub, heq]
      rcases Nat.mod_two_eq_zero_or_one (n / d) with h | h <;> rw [h] <;> norm_num [abs_of_neg]

theorem cast_shiftLeft (n k : Nat) : ((n <<< k : Nat) : ℚ) = n * 2 ^ k := by
  rw [Nat.shiftLeft_eq, Nat.cast_mul, Nat.cast_pow, Nat.cast_ofNat]

/-- A whole number other than one within a half is at least a half away. -/
theorem half_le_abs_sub {t : ℚ} {k j : ℤ} (hk : |t - k| ≤ 1 / 2) (hj : j ≠ k) :
    1 / 2 ≤ |t - j| := by
  have hone : (1 : ℚ) ≤ |(k : ℚ) - j| := by
    rw [← Int.cast_sub, ← Int.cast_abs]
    exact_mod_cast Int.one_le_abs (sub_ne_zero.2 hj.symm)
  have htri := abs_sub_le (k : ℚ) t j
  rw [abs_sub_comm (k : ℚ) t] at htri
  linarith

namespace Binary64

/-! ## A quotient in its binade -/

/-- The quotient `n / d` as a rounded multiple of the spacing near it. -/
def quotient (n d : Nat) : Nat := roundHalfEven n (d <<< binade n d)

theorem nearestPattern_eq (n d : Nat) :
    nearestPattern n d =
      binade (n <<< 1074) d * fractionCount + quotient (n <<< 1074) d := rfl

section Quotient

variable {n d : Nat}

theorem lt_two_pow_binade (hd : 0 < d) : n < 2 ^ (53 + binade n d) * d := by
  have hlog : n / d < 2 ^ ((n / d).log2 + 1) := Nat.lt_log2_self
  rw [← Nat.div_lt_iff_lt_mul hd]
  exact hlog.trans_le (Nat.pow_le_pow_right (by norm_num) (by rw [binade]; omega))

theorem two_pow_binade_le (h : 0 < binade n d) : 2 ^ (52 + binade n d) * d ≤ n := by
  rw [binade] at h
  have hlog : (n / d).log2 = 52 + binade n d := by rw [binade]; omega
  have hne : n / d ≠ 0 := fun hz => by simp [hz] at h
  exact (Nat.mul_le_mul_right d (hlog ▸ Nat.log2_self_le hne)).trans (Nat.div_mul_le_self n d)

theorem div_lt_two_pow (hd : 0 < d) {k : Nat} (hk : 53 + binade n d ≤ k) :
    (n / d : ℚ) < 2 ^ k := by
  have hn : n < 2 ^ k * d := (lt_two_pow_binade hd).trans_le
    (Nat.mul_le_mul_right d (Nat.pow_le_pow_right two_pos hk))
  rw [div_lt_iff₀ (Nat.cast_pos.2 hd)]
  exact_mod_cast hn

theorem two_pow_le_div (hd : 0 < d) (h : 0 < binade n d) {k : Nat} (hk : k ≤ 52 + binade n d) :
    (2 : ℚ) ^ k ≤ n / d := by
  have hn : 2 ^ k * d ≤ n := le_trans
    (Nat.mul_le_mul_right d (Nat.pow_le_pow_right two_pos hk)) (two_pow_binade_le h)
  rw [le_div_iff₀ (Nat.cast_pos.2 hd)]
  exact_mod_cast hn

theorem shiftLeft_binade_pos (hd : 0 < d) : 0 < d <<< binade n d := by
  rw [Nat.shiftLeft_eq]
  positivity

/-- The quotient carries into the next binade at most. -/
theorem quotient_le (hd : 0 < d) : quotient n d ≤ 2 ^ 53 := by
  have hlt : n / (d <<< binade n d) < 2 ^ 53 := by
    rw [Nat.div_lt_iff_lt_mul (shiftLeft_binade_pos hd), Nat.shiftLeft_eq, mul_comm d, ← mul_assoc,
      ← pow_add]
    exact lt_two_pow_binade hd
  exact (roundHalfEven_upper _ _).trans hlt

/-- Only the first binade has quotients without a leading bit. -/
theorem le_quotient (hd : 0 < d) (h : 0 < binade n d) : 2 ^ 52 ≤ quotient n d := by
  have hle : 2 ^ 52 ≤ n / (d <<< binade n d) := by
    rw [Nat.le_div_iff_mul_le (shiftLeft_binade_pos hd), Nat.shiftLeft_eq, mul_comm d, ← mul_assoc,
      ← pow_add]
    exact two_pow_binade_le h
  exact hle.trans (roundHalfEven_lower _ _)

theorem quotient_near (hd : 0 < d) :
    |(n / d : ℚ) / 2 ^ binade n d - quotient n d| ≤ 1 / 2 ∧
      (|(n / d : ℚ) / 2 ^ binade n d - quotient n d| = 1 / 2 → Even (quotient n d)) := by
  have h := roundHalfEven_near (n := n) (shiftLeft_binade_pos (n := n) hd)
  rw [cast_shiftLeft, ← div_div] at h
  exact h

/-- The quotient carries into the next binade from a half below it on, which is even and takes the
half. -/
theorem two_pow_le_quotient_iff (hd : 0 < d) :
    2 ^ 53 ≤ quotient n d ↔ (2 : ℚ) ^ 53 - 1 / 2 ≤ (n / d : ℚ) / 2 ^ binade n d := by
  obtain ⟨hnear, heven⟩ := quotient_near (n := n) hd
  have hupper := quotient_le (n := n) hd
  generalize (n / d : ℚ) / 2 ^ binade n d = t at hnear heven
  obtain ⟨hlow, hhigh⟩ := abs_le.1 hnear
  constructor
  · intro h
    have hq : (quotient n d : ℚ) = 2 ^ 53 := by exact_mod_cast le_antisymm hupper h
    linarith
  · intro h
    by_contra hlt
    have hq : (quotient n d : ℚ) + 1 ≤ 2 ^ 53 := by exact_mod_cast not_le.1 hlt
    have hhalf : |t - quotient n d| = 1 / 2 := le_antisymm hnear (le_abs.2 (.inl (by linarith)))
    obtain ⟨k, hk⟩ := heven hhalf
    have hq2 : quotient n d + 2 ≤ 2 ^ 53 := by omega
    have hq2' : (quotient n d : ℚ) + 2 ≤ 2 ^ 53 := by exact_mod_cast hq2
    linarith

/-- The rounded quotient is the nearest multiple of the spacing, ties to even. -/
theorem abs_sub_quotient_le_of_dvd (hd : 0 < d) (j : ℤ) :
    |(n / d : ℚ) - quotient n d * 2 ^ binade n d| ≤ |(n / d : ℚ) - j * 2 ^ binade n d| ∧
      (j ≠ quotient n d →
        |(n / d : ℚ) - j * 2 ^ binade n d| = |(n / d : ℚ) - quotient n d * 2 ^ binade n d| →
        Even (quotient n d)) := by
  obtain ⟨hnear, heven⟩ := quotient_near (n := n) hd
  have hpos : (0 : ℚ) < 2 ^ binade n d := by positivity
  have hscale : ∀ a : ℚ, |(n / d : ℚ) - a * 2 ^ binade n d| =
      |(n / d : ℚ) / 2 ^ binade n d - a| * 2 ^ binade n d := fun a => by
    rw [← abs_of_pos hpos, ← abs_mul, abs_of_pos hpos, sub_mul, div_mul_cancel₀ _ hpos.ne']
  rw [hscale, hscale, mul_le_mul_iff_of_pos_right hpos, mul_left_inj' hpos.ne']
  by_cases hj : j = quotient n d
  · subst hj
    exact ⟨le_rfl, fun hne => absurd rfl hne⟩
  · have hhalf := half_le_abs_sub (k := (quotient n d : ℤ)) hnear hj
    exact ⟨hnear.trans hhalf, fun _ heq => heven (le_antisymm hnear (heq ▸ hhalf))⟩

/-- A whole number of units that is a multiple of the spacing, or that lies below the binade. -/
def Aligned (s : Nat) (u : ℤ) : Prop := 2 ^ s ∣ u ∨ 0 < s ∧ u < 2 ^ (52 + s)

/-- **The rounded quotient is the nearest of all aligned numbers**, ties to even: what lies below
the binade is farther away than the first number of the binade. -/
theorem abs_sub_quotient_le (hd : 0 < d) {u : ℤ} (hu : Aligned (binade n d) u) :
    |(n / d : ℚ) - quotient n d * 2 ^ binade n d| ≤ |(n / d : ℚ) - u| ∧
      ((u : ℚ) ≠ quotient n d * 2 ^ binade n d →
        |(n / d : ℚ) - u| = |(n / d : ℚ) - quotient n d * 2 ^ binade n d| →
        Even (quotient n d)) := by
  rcases hu with ⟨j, rfl⟩ | ⟨hs, hu⟩
  · obtain ⟨hle, heven⟩ := abs_sub_quotient_le_of_dvd (n := n) hd j
    have hcast : ((2 ^ binade n d * j : ℤ) : ℚ) = j * 2 ^ binade n d := by
      push_cast
      exact mul_comm _ _
    rw [hcast]
    refine ⟨hle, fun hne heq => heven (fun hj => hne ?_) heq⟩
    rw [hj, Int.cast_natCast]
  · have hfirst := (abs_sub_quotient_le_of_dvd (n := n) hd (2 ^ 52)).1
    have hcast : ((2 ^ 52 : ℤ) : ℚ) * 2 ^ binade n d = 2 ^ (52 + binade n d) := by
      rw [Int.cast_pow, Int.cast_ofNat, ← pow_add]
    have hbelow : (2 : ℚ) ^ (52 + binade n d) ≤ n / d := two_pow_le_div hd hs le_rfl
    have hu' : (u : ℚ) < 2 ^ (52 + binade n d) := by exact_mod_cast hu
    have hlt : |(n / d : ℚ) - quotient n d * 2 ^ binade n d| < |(n / d : ℚ) - u| := by
      rw [hcast, abs_of_nonneg (sub_nonneg.2 hbelow)] at hfirst
      rw [abs_of_nonneg (by linarith : (0 : ℚ) ≤ n / d - u)]
      linarith
    exact ⟨hlt.le, fun _ heq => absurd heq hlt.ne'⟩

/-- **The pattern leaves the finite ones** halfway between the greatest finite number and the next
power of two. -/
theorem infinityPattern_le_iff (hd : 0 < d) :
    infinityPattern ≤ binade n d * fractionCount + quotient n d ↔
      ((2 : ℚ) ^ 53 - 1 / 2) * 2 ^ 2045 ≤ n / d := by
  have hupper := quotient_le (n := n) hd
  have hlower := le_quotient (n := n) hd
  have hpos : (0 : ℚ) < 2 ^ 2045 := pow_pos two_pos _
  have hpattern : infinityPattern = 2047 * 2 ^ 52 := rfl
  have hcount : fractionCount = 2 ^ 52 := rfl
  rw [hpattern, hcount]
  -- only in the last finite binade does the rounded quotient decide, by its carry
  rcases lt_trichotomy (binade n d) 2045 with hs | hs | hs
  · have hlt : (n / d : ℚ) < 2 ^ 52 * 2 ^ 2045 := by
      rw [← pow_add]
      exact div_lt_two_pow hd (by omega)
    have hle : (2 : ℚ) ^ 52 * 2 ^ 2045 ≤ (2 ^ 53 - 1 / 2) * 2 ^ 2045 :=
      mul_le_mul_of_nonneg_right (by norm_num) hpos.le
    exact iff_of_false (by omega) (not_le.2 (hlt.trans_le hle))
  · have hcarry := two_pow_le_quotient_iff (n := n) hd
    rw [hs, le_div_iff₀ hpos] at hcarry
    rw [← hcarry]
    omega
  · have hle : (2 : ℚ) ^ 53 * 2 ^ 2045 ≤ n / d := by
      rw [← pow_add]
      exact two_pow_le_div hd (by omega) (by omega)
    have hlt : ((2 : ℚ) ^ 53 - 1 / 2) * 2 ^ 2045 ≤ 2 ^ 53 * 2 ^ 2045 :=
      mul_le_mul_of_nonneg_right (by norm_num) hpos.le
    have hq := hlower (by omega)
    exact iff_of_true (by omega) (hlt.trans hle)

end Quotient

/-! ## The number found -/

/-- What a binade's pattern stands for, the carry into the next binade included. -/
theorem units_ofNat {s m : Nat} (hm : m ≤ 2 ^ 53) (hs : 0 < s → 2 ^ 52 ≤ m)
    (hp : s * fractionCount + m ≤ infinityPattern) :
    (⟨UInt64.ofNat (s * fractionCount + m)⟩ : Binary64).units = m * 2 ^ s := by
  have hmag := magnitude_ofNat hp
  generalize (⟨UInt64.ofNat (s * fractionCount + m)⟩ : Binary64) = x at hmag
  have hf := x.fraction_lt
  rw [magnitude_eq] at hmag
  rw [units_eq, significand, gap]
  rw [fractionCount] at hmag hf ⊢
  rcases lt_trichotomy m (2 ^ 52) with hlt | rfl | hgt
  · obtain rfl : s = 0 := by omega
    rw [if_pos (by omega), show x.exponentField - 1 = 0 by omega, show x.fraction = m by omega]
  · rw [if_neg (by omega), show x.exponentField - 1 = s by omega,
      show 0x10000000000000 + x.fraction = 2 ^ 52 by omega]
  · by_cases hc : m = 2 ^ 53
    · subst hc
      rw [if_neg (by omega), show x.exponentField - 1 = s + 1 by omega,
        show 0x10000000000000 + x.fraction = 2 ^ 52 by omega]
      ring
    · rw [if_neg (by omega), show x.exponentField - 1 = s by omega,
        show 0x10000000000000 + x.fraction = m by omega]

/-- Every number is aligned with the spacing of every binade. -/
theorem exists_aligned (y : Binary64) (s : Nat) :
    ∃ u : ℤ, y.value = u * unit ∧ Aligned s u := by
  have hmag : Aligned s y.units ∧ Aligned s (-y.units) := by
    by_cases hg : s ≤ y.gap
    · have hdvd : (2 : ℤ) ^ s ∣ y.units := by
        rw [units_eq]
        push_cast
        exact Dvd.dvd.mul_left (pow_dvd_pow 2 hg) _
      exact ⟨.inl hdvd, .inl (dvd_neg.2 hdvd)⟩
    · rw [gap] at hg
      have hlt : y.units < 2 ^ (52 + s) :=
        y.units_lt_two_pow.trans_le (Nat.pow_le_pow_right two_pos (by omega))
      have hlt' : (y.units : ℤ) < 2 ^ (52 + s) := by exact_mod_cast hlt
      exact ⟨.inr ⟨by omega, hlt'⟩, .inr ⟨by omega, by omega⟩⟩
  rw [value_eq]
  split
  · exact ⟨-y.units, by push_cast; ring, hmag.2⟩
  · exact ⟨y.units, by push_cast; ring, hmag.1⟩

section Nearest

variable {n d : Nat}

/-- A quotient, counted in units. -/
theorem div_eq_units (n d : Nat) : (n / d : ℚ) = ((n <<< 1074 : Nat) / d : ℚ) * unit := by
  have hunit := two_pow_mul_unit 0
  rw [Nat.zero_add, pow_zero] at hunit
  rw [cast_shiftLeft, div_mul_eq_mul_div, mul_assoc, hunit, mul_one]

theorem abs_sub_mul_unit (a b : ℚ) : |a * unit - b * unit| = |a - b| * unit := by
  rw [← sub_mul, abs_mul, abs_of_pos unit_pos]

theorem eq_of_nearest? {x : Binary64} (h : nearest? n d = some x) :
    nearestPattern n d < infinityPattern ∧ x = ⟨UInt64.ofNat (nearestPattern n d)⟩ := by
  have hlt : nearestPattern n d < infinityPattern := by
    by_contra hle
    rw [(nearest?_eq_none_iff n d).2 (not_lt.1 hle)] at h
    cases h
  rw [nearest?, if_pos hlt] at h
  exact ⟨hlt, (Option.some.inj h).symm⟩

theorem value_nearestPattern (hd : 0 < d) (hp : nearestPattern n d ≤ infinityPattern) :
    (⟨UInt64.ofNat (nearestPattern n d)⟩ : Binary64).value =
      quotient (n <<< 1074) d * 2 ^ binade (n <<< 1074) d * unit := by
  have hunits : (⟨UInt64.ofNat (nearestPattern n d)⟩ : Binary64).units =
      quotient (n <<< 1074) d * 2 ^ binade (n <<< 1074) d :=
    units_ofNat (quotient_le hd) (le_quotient hd) hp
  rw [value_of_nonneg (isNegative_ofNat hp), hunits]
  push_cast
  rfl

theorem even_nearestPattern : Even (nearestPattern n d) ↔ Even (quotient (n <<< 1074) d) := by
  rw [nearestPattern_eq, fractionCount, Nat.even_iff, Nat.even_iff]
  omega

/-- **The number found is the nearest one**, ties to even. -/
theorem nearestEven_of_nearest? (hd : 0 < d) {x : Binary64} (h : nearest? n d = some x) :
    NearestEven (n / d) x := by
  obtain ⟨hlt, rfl⟩ := eq_of_nearest? h
  have hvalue := value_nearestPattern hd hlt.le
  have hmag := magnitude_ofNat hlt.le
  refine ⟨isFinite_iff.2 (by rwa [hmag]), isNegative_ofNat hlt.le, fun y _ => ?_, fun y _ => ?_⟩
  · obtain ⟨u, hy, hu⟩ := exists_aligned y (binade (n <<< 1074) d)
    rw [hvalue, hy, div_eq_units, abs_sub_mul_unit, abs_sub_mul_unit,
      mul_le_mul_iff_of_pos_right unit_pos]
    exact (abs_sub_quotient_le hd hu).1
  · obtain ⟨u, hy, hu⟩ := exists_aligned y (binade (n <<< 1074) d)
    rw [hvalue, hy, div_eq_units, abs_sub_mul_unit, abs_sub_mul_unit, ne_eq,
      mul_left_inj' unit_pos.ne', mul_left_inj' unit_pos.ne', even_significand, hmag,
      even_nearestPattern]
    exact (abs_sub_quotient_le hd hu).2

/-- Halfway between the greatest finite number and the next power of two, in units. -/
theorem two_pow_sub_two_pow :
    (2 : ℚ) ^ 1024 - 2 ^ 970 = (2 ^ 53 - 1 / 2) * 2 ^ 2045 * unit := by
  have hunit : (2 : ℚ) ^ 2045 * unit = 2 * 2 ^ 970 := by
    rw [← pow_succ']
    exact two_pow_mul_unit 971
  have hfirst : (2 : ℚ) ^ 1024 = 2 ^ 54 * 2 ^ 970 := pow_add 2 54 970
  rw [mul_assoc, hunit, hfirst]
  generalize (2 : ℚ) ^ 970 = a
  ring

/-- **No number is found** from halfway between the greatest finite number and the next power of
two on. -/
theorem nearest?_eq_none_iff_le (hd : 0 < d) :
    nearest? n d = none ↔ (2 : ℚ) ^ 1024 - 2 ^ 970 ≤ n / d := by
  rw [nearest?_eq_none_iff, nearestPattern_eq, infinityPattern_le_iff hd, two_pow_sub_two_pow,
    div_eq_units n d, mul_le_mul_iff_of_pos_right unit_pos]

end Nearest

end Binary64

end LoxLexer
