import LoxLexer.Proofs.Decimal.Shortest

/-! # The shortest decimal has the fewest digits

What rounds to a number is in its interval (`contains_of_nearestEven`), and a grid that meets the
interval is found (`onGrid?_ne_none`), unless it is too coarse to hold anything but zero
(`high_lt_pow_coarseGrid`). So no decimal that reads back is coarser than the shortest one
(`exponent_le_exponent_shortest`), and none has fewer digits (`length_digits_shortest_le`): between
such a decimal and the shortest one there would be a power of ten on a coarser grid.
-/

set_option autoImplicit false

namespace LoxLexer

open Binary64

namespace RoundingInterval

/-! ## Everything that rounds to a number -/

theorem contains_of_nearestEven {x : Binary64} (hpos : 0 < x.magnitude) {m : Nat}
    (h : NearestEven (m * tick) x) (hlt : m * tick < 2 ^ 1024 - 2 ^ 970) :
    (of x).contains m = true := by
  obtain ⟨hhigh, hhighEven⟩ := h.le_half_gap hlt
  obtain ⟨hlow, hlowEven⟩ := h.half_gapBelow_le hpos
  rw [← high_mul_tick h.sign] at hhigh hhighEven
  rw [← low_mul_tick h.finite hpos h.sign] at hlow hlowEven
  have hlow' : (of x).low ≤ m := Nat.cast_le.1 ((mul_le_mul_iff_of_pos_right tick_pos).1 hlow)
  have hhigh' : m ≤ (of x).high := Nat.cast_le.1 ((mul_le_mul_iff_of_pos_right tick_pos).1 hhigh)
  unfold contains
  split
  · exact decide_eq_true ⟨hlow', hhigh'⟩
  · next hopen =>
    rw [closed_of_iff] at hopen
    have hlowNe : m ≠ (of x).low := by
      intro heq
      rw [heq] at hlowEven
      exact hopen (hlowEven rfl)
    have hhighNe : m ≠ (of x).high := by
      intro heq
      rw [heq] at hhighEven
      exact hopen (hhighEven rfl)
    exact decide_eq_true ⟨by omega, by omega⟩

theorem pos_of_nearestEven {q : ℚ} {x : Binary64} (hpos : 0 < x.magnitude)
    (h : NearestEven q x) : 0 < q := by
  obtain ⟨hlow, -⟩ := h.half_gapBelow_le hpos
  have hbelow : (2 ^ x.gapBelow : ℚ) ≤ x.units := by
    exact_mod_cast two_pow_gapBelow_le h.finite hpos
  have hgap : 0 < 2 ^ x.gapBelow * unit := mul_pos (pow_pos two_pos _) unit_pos
  have hscaled := mul_le_mul_of_nonneg_right hbelow unit_pos.le
  rw [value_of_nonneg h.sign] at hlow
  linarith

/-! ## The search misses nothing -/

section
variable {i : RoundingInterval}

theorem le_high_of_contains {m : Nat} (h : i.contains m = true) : m ≤ i.high := by
  unfold contains at h
  split at h
  · exact (of_decide_eq_true h).2
  · exact (of_decide_eq_true h).2.le

theorem contains_of_between {a b m : Nat} (ha : i.contains a = true) (hb : i.contains b = true)
    (hlow : a ≤ m) (hhigh : m ≤ b) : i.contains m = true := by
  unfold contains at ha hb ⊢
  split at ha
  · next hclosed =>
    rw [if_pos hclosed, decide_eq_true_eq] at hb ⊢
    rw [decide_eq_true_eq] at ha
    omega
  · next hopen =>
    rw [if_neg hopen, decide_eq_true_eq] at hb ⊢
    rw [decide_eq_true_eq] at ha
    omega

variable (hvalue : i.contains i.value = true)
include hvalue

/-- If a grid meets the interval, one of the two neighbours of the value does. -/
theorem onGrid?_ne_none {step m : Nat} (hm : i.contains (m * step) = true) :
    i.onGrid? step ≠ none := by
  have hneighbour : i.contains (i.value / step * step) = true ∨
      i.contains ((i.value / step + 1) * step) = true := by
    rcases Nat.lt_or_ge i.value (m * step) with hlt | hle
    · right
      have hstep : 0 < step := Nat.pos_of_ne_zero (by rintro rfl; simp at hlt)
      apply contains_of_between hvalue hm
      · exact (Nat.lt_mul_of_div_lt (Nat.lt_succ_self _) hstep).le
      · exact Nat.mul_le_mul_right _ ((Nat.div_lt_iff_lt_mul hstep).2 hlt)
    · left
      apply contains_of_between hm hvalue _ (Nat.div_mul_le_self _ _)
      rcases Nat.eq_zero_or_pos step with rfl | hstep
      · simp
      · exact Nat.mul_le_mul_right _ ((Nat.le_div_iff_mul_le hstep).2 hle)
  simp only [onGrid?]
  cases hlow : i.contains (i.value / step * step) <;>
    cases hhigh : i.contains ((i.value / step + 1) * step)
  · simp [hlow, hhigh] at hneighbour
  · simp
  · simp
  · simp only
    split <;> simp

/-- The search ends on no finer grid than one that meets the interval, if it looks there at all. -/
theorem le_exponent_coarsest {m n top : Nat} (hm : i.contains (m * 10 ^ n) = true) (hn : n ≤ top) :
    (n : ℤ) - 1075 ≤ (i.coarsest top).exponent := by
  induction top with
  | zero =>
    obtain rfl : n = 0 := Nat.le_zero.1 hn
    exact le_refl _
  | succ top ih =>
    unfold coarsest
    split
    · show (n : ℤ) - 1075 ≤ ((top + 1 : Nat) : ℤ) - 1075
      omega
    · next hnone =>
      have hne : n ≠ top + 1 := by
        rintro rfl
        exact onGrid?_ne_none hvalue hm hnone
      exact ih (by omega)

end

end RoundingInterval

/-! ## Grids that are too coarse -/

namespace Decimal

open RoundingInterval

/-- Three bits make less than a digit. -/
theorem two_pow_add_mul_five_pow_le (n r : Nat) : 2 ^ (n + r) * 5 ^ n ≤ 10 ^ (n + r / 3 + 1) := by
  have hbits : 2 ^ r ≤ 10 ^ (r / 3 + 1) := by
    calc 2 ^ r ≤ 2 ^ (3 * (r / 3 + 1)) := Nat.pow_le_pow_right two_pos (by omega)
      _ = 8 ^ (r / 3 + 1) := pow_mul 2 3 _
      _ ≤ 10 ^ (r / 3 + 1) := Nat.pow_le_pow_left (by norm_num) _
  calc 2 ^ (n + r) * 5 ^ n = 2 ^ n * 5 ^ n * 2 ^ r := by rw [pow_add, Nat.mul_right_comm]
    _ = 10 ^ n * 2 ^ r := by rw [← Nat.mul_pow]
    _ ≤ 10 ^ n * 10 ^ (r / 3 + 1) := Nat.mul_le_mul_left _ hbits
    _ = 10 ^ (n + r / 3 + 1) := by rw [← pow_add, Nat.add_assoc]

/-- Four bits make more than a digit. -/
theorem two_pow_mul_five_pow_add_le (bits r : Nat) :
    2 ^ bits * 5 ^ (bits + r) ≤ 10 ^ (bits + r - r / 4) := by
  have hfives : 5 ^ (r / 4) ≤ 2 ^ (r - r / 4) := by
    calc 5 ^ (r / 4) ≤ 8 ^ (r / 4) := Nat.pow_le_pow_left (by norm_num) _
      _ = 2 ^ (3 * (r / 4)) := (pow_mul 2 3 _).symm
      _ ≤ 2 ^ (r - r / 4) := Nat.pow_le_pow_right two_pos (by omega)
  have hsplit : bits + r = bits + (r / 4 + (r - r / 4)) := by omega
  have hexponent : bits + r - r / 4 = bits + (r - r / 4) := by omega
  calc 2 ^ bits * 5 ^ (bits + r)
      = 10 ^ bits * (5 ^ (r / 4) * 5 ^ (r - r / 4)) := by
        rw [← pow_add, show 10 = 2 * 5 from rfl, Nat.mul_pow, Nat.mul_assoc, ← pow_add, ← hsplit]
    _ ≤ 10 ^ bits * (2 ^ (r - r / 4) * 5 ^ (r - r / 4)) :=
        Nat.mul_le_mul_left _ (Nat.mul_le_mul_right _ hfives)
    _ = 10 ^ (bits + r - r / 4) := by rw [← Nat.mul_pow, ← pow_add, hexponent]

theorem two_pow_mul_five_pow_le (bits n : Nat) : 2 ^ bits * Nat.pow 5 n ≤
    10 ^ (if n ≤ bits then n + (bits - n) / 3 + 1 else n - (n - bits) / 4) := by
  rw [Nat.pow_eq]
  split
  · next h =>
    obtain ⟨r, rfl⟩ := Nat.exists_eq_add_of_le h
    rw [Nat.add_sub_cancel_left]
    exact two_pow_add_mul_five_pow_le n r
  · next h =>
    obtain ⟨r, rfl⟩ := Nat.exists_eq_add_of_le (Nat.le_of_not_le h)
    rw [Nat.add_sub_cancel_left]
    exact two_pow_mul_five_pow_add_le bits r

/-- Nothing but zero is on a grid that the search leaves out. -/
theorem high_lt_pow_coarseGrid (x : Binary64) :
    (of x).high < 10 ^ coarseGrid ((2 * x.units + (1 <<< x.gap)).log2 + 1) := by
  have hhigh : (of x).high = (2 * x.units + 1 <<< x.gap) * halfUnit := rfl
  have hhalf : 0 < halfUnit := by
    unfold halfUnit
    apply Nat.pow_pos
    decide
  rw [hhigh]
  generalize 2 * x.units + 1 <<< x.gap = n
  refine (Nat.mul_lt_mul_of_pos_right Nat.lt_log2_self hhalf).trans_le ?_
  unfold halfUnit coarseGrid
  apply two_pow_mul_five_pow_le

/-! ## No decimal is shorter -/

/-- **No decimal that reads back is coarser** than the shortest one. -/
theorem exponent_le_exponent_shortest {x : Binary64} (hpos : 0 < x.magnitude) {d : Decimal}
    (h : d.nearest? = some x) : d.exponent ≤ (shortest x).exponent := by
  obtain ⟨hnear, hlt⟩ := nearest?_eq_some_iff.1 h
  have hvalue := contains_value hnear.finite hpos hnear.sign
  have htop := high_lt_pow_coarseGrid x
  rw [shortest, if_neg hpos.ne']
  generalize coarseGrid ((2 * x.units + (1 <<< x.gap)).log2 + 1) = top at htop ⊢
  by_cases hfine : d.exponent < -1075
  · have hleast := le_exponent_coarsest hvalue (m := (of x).value) (n := 0) (by simpa using hvalue)
      (Nat.zero_le top)
    omega
  · obtain ⟨n, hn⟩ : ∃ n : Nat, d.exponent = (n : ℤ) - 1075 :=
      ⟨(d.exponent + 1075).toNat, by omega⟩
    have hticks : d.value = (d.coefficient * 10 ^ n : Nat) * tick := by
      rw [value, hn, zpow_sub_eq, Nat.cast_mul, Nat.cast_pow, mul_assoc]
      rfl
    rw [hticks] at hnear hlt
    have hcontains := contains_of_nearestEven hpos hnear hlt
    have hn' : n ≤ top := by
      by_contra hcoarse
      have hhigh := le_high_of_contains hcontains
      have hpow : 10 ^ top ≤ 10 ^ n := Nat.pow_le_pow_right (by norm_num) (by omega)
      have hzero : d.coefficient = 0 := by
        by_contra hne
        have := Nat.le_mul_of_pos_left (10 ^ n) (Nat.pos_of_ne_zero hne)
        omega
      rw [hzero, Nat.zero_mul, Nat.cast_zero, zero_mul] at hnear
      exact absurd (pos_of_nearestEven hpos hnear) (lt_irrefl _)
    rw [hn]
    exact le_exponent_coarsest hvalue hcontains hn'

/-- What lies between two decimals that read back reads back. -/
theorem nearest?_of_between {p q r : Decimal} {x : Binary64} (hp : p.nearest? = some x)
    (hr : r.nearest? = some x) (hlow : p.value ≤ q.value) (hhigh : q.value ≤ r.value) :
    q.nearest? = some x := by
  obtain ⟨hpnear, -⟩ := nearest?_eq_some_iff.1 hp
  obtain ⟨hrnear, hlt⟩ := nearest?_eq_some_iff.1 hr
  obtain ⟨y, hy⟩ := exists_nearest? (hhigh.trans_lt hlt)
  obtain ⟨hynear, -⟩ := nearest?_eq_some_iff.1 hy
  rw [hy, eq_of_value_eq hynear.sign hpnear.sign
    (le_antisymm (hynear.mono hrnear hhigh) (hpnear.mono hynear hlow))]

/-- **The shortest decimal has the fewest digits** of all that read back. -/
theorem length_digits_shortest_le {x : Binary64} {d : Decimal} (h : d.nearest? = some x) :
    (shortest x).digits.length ≤ d.digits.length := by
  obtain ⟨hnear, -⟩ := nearest?_eq_some_iff.1 h
  have hlength : 0 < d.digits.length := Nat.length_toDigits_pos
  by_cases hzero : x.magnitude = 0
  · rw [shortest, if_pos hzero]
    exact hlength
  · by_contra hlonger
    have hdigits : ∀ c : Nat, (Nat.toDigits 10 c).length ≤ d.digits.length ↔
        c < 10 ^ d.digits.length := fun c =>
      Nat.length_toDigits_le_iff (by norm_num) hlength
    have hsmall : d.coefficient < 10 ^ d.digits.length := (hdigits _).1 (le_refl _)
    have hlarge : 10 ^ d.digits.length ≤ (shortest x).coefficient :=
      not_lt.1 fun hlt => hlonger ((hdigits _).2 hlt)
    have hpos : 0 < x.magnitude := Nat.pos_of_ne_zero hzero
    have hexponent := exponent_le_exponent_shortest hpos h
    -- a power of ten between the two, on a coarser grid
    let p : Decimal := ⟨1, d.digits.length + (shortest x).exponent⟩
    have hp : p.value = (10 ^ d.digits.length : Nat) * 10 ^ (shortest x).exponent := by
      rw [value, zpow_add₀ (by norm_num), zpow_natCast]
      push_cast
      ring
    have hten : ∀ e : ℤ, (0 : ℚ) < 10 ^ e := fun e => zpow_pos (by norm_num) e
    have hlow : d.value ≤ p.value := by
      rw [hp]
      exact mul_le_mul (Nat.cast_le.2 hsmall.le) (zpow_le_zpow_right₀ (by norm_num) hexponent)
        (hten _).le (Nat.cast_nonneg _)
    have hhigh : p.value ≤ (shortest x).value := by
      rw [hp]
      exact mul_le_mul_of_nonneg_right (Nat.cast_le.2 hlarge) (hten _).le
    have hreads := nearest?_of_between h (nearest?_shortest hnear.finite hnear.sign) hlow hhigh
    have hcoarser : d.digits.length + (shortest x).exponent ≤ (shortest x).exponent :=
      exponent_le_exponent_shortest hpos hreads
    omega

end Decimal

end LoxLexer
