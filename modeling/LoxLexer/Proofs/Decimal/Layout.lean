import LoxLexer.Decimal.Layout
import LoxLexer.Proofs.Decimal.Rounding
import LoxLexer.Proofs.LongestMatch

/-! # Positional decimals

The digits of a decimal determine it up to the power of ten of the first one
(`zpow_leadingExponent_le_value`, `value_lt_zpow`). Written positionally it is a numeral, whose
digits stand for the same number (`exists_numeral_write`).
-/

set_option autoImplicit false

namespace LoxLexer

open Grammar

namespace Decimal

/-! ## The first digit -/

theorem exponent_eq (d : Decimal) : d.exponent = d.leadingExponent + 1 - d.digits.length := by
  have hpos : 0 < d.digits.length := Nat.length_toDigits_pos
  rw [leadingExponent]
  omega

theorem value_pos {d : Decimal} (h : d.value ≠ 0) : 0 < d.coefficient := by
  apply Nat.pos_of_ne_zero
  intro hzero
  rw [value, hzero, Nat.cast_zero, zero_mul] at h
  exact h rfl

theorem zpow_leadingExponent_le_value {d : Decimal} (h : d.value ≠ 0) :
    (10 : ℚ) ^ d.leadingExponent ≤ d.value := by
  have hlength : 10 ^ (d.digits.length - 1) ≤ d.coefficient := by
    by_cases hone : d.digits.length - 1 = 0
    · rw [hone, pow_zero]
      exact value_pos h
    · have hiff := Nat.length_toDigits_le_iff (n := d.coefficient) (k := d.digits.length - 1)
        (by norm_num : 1 < 10) (Nat.pos_of_ne_zero hone)
      rw [← not_lt, ← hiff]
      show ¬ d.digits.length ≤ d.digits.length - 1
      omega
  have hcast : (10 : ℚ) ^ (d.digits.length - 1) ≤ d.coefficient := by exact_mod_cast hlength
  have hexp : d.leadingExponent = (d.digits.length - 1 : Nat) + d.exponent := by
    rw [leadingExponent, add_comm]
  rw [hexp, zpow_add₀ (by norm_num), zpow_natCast, value]
  exact mul_le_mul_of_nonneg_right hcast (zpow_nonneg (by norm_num) _)

theorem value_lt_zpow (d : Decimal) : d.value < (10 : ℚ) ^ (d.leadingExponent + 1) := by
  have hlength : d.coefficient < 10 ^ d.digits.length :=
    (Nat.length_toDigits_le_iff (by norm_num) Nat.length_toDigits_pos).1 le_rfl
  have hcast : (d.coefficient : ℚ) < 10 ^ d.digits.length := by exact_mod_cast hlength
  have hexp : d.leadingExponent + 1 = (d.digits.length : Nat) + d.exponent := by
    rw [exponent_eq]
    omega
  rw [hexp, zpow_add₀ (by norm_num), zpow_natCast, value]
  exact mul_lt_mul_of_pos_right hcast (zpow_pos (by norm_num) _)

end Decimal

/-! ## The digits around the point -/

namespace Layout

section
variable {ds : List Char} {e : ℤ}

theorem positional_of_neg (he : e < 0) :
    positional ds e = ['0'] ++ '.' :: (List.replicate (-e - 1).toNat '0' ++ ds) := by
  unfold positional
  rw [if_pos he]
  rfl

theorem positional_of_length_le (he : ¬ e < 0) (hlength : ds.length ≤ e.toNat + 1) :
    positional ds e =
      (ds ++ List.replicate (e.toNat + 1 - ds.length) '0') ++ '.' :: ['0'] := by
  unfold positional
  simp only [if_neg he, List.take_of_length_le hlength, List.drop_of_length_le hlength,
    List.isEmpty_nil, if_true]

theorem positional_of_lt_length (he : ¬ e < 0) (hlength : e.toNat + 1 < ds.length) :
    positional ds e = ds.take (e.toNat + 1) ++ '.' :: ds.drop (e.toNat + 1) := by
  have hdrop : (ds.drop (e.toNat + 1)).isEmpty = false := by
    rw [List.isEmpty_eq_false_iff, ne_eq, List.drop_eq_nil_iff]
    omega
  have htake : (ds.take (e.toNat + 1)).length = e.toNat + 1 :=
    List.length_take_of_le hlength.le
  unfold positional
  simp only [if_neg he, hdrop, htake, Nat.sub_self, List.replicate_zero, List.append_nil]
  rfl

/-- What is read where digits have zeros behind them, some of both behind the point. -/
theorem value_read_of_zeros {whole fraction : List Char} {k : Nat}
    (h : Nat.ofDigitChars 10 (whole ++ fraction) 0 = 10 ^ k * Nat.ofDigitChars 10 ds 0) :
    (Decimal.read whole fraction).value =
      Nat.ofDigitChars 10 ds 0 * 10 ^ (k - fraction.length : ℤ) := by
  rw [Decimal.value, Decimal.read, h, sub_eq_add_neg, zpow_add₀ (by norm_num), zpow_natCast]
  push_cast
  ring

theorem forall_isDigit_zeros (n : Nat) : ∀ c ∈ List.replicate n '0', c.isDigit = true := by
  intro c hc
  rw [List.eq_of_mem_replicate hc]
  rfl

theorem zero_mem_digits : ['0'] ∈ digits := mem_digits.2 ⟨by simp, forall_isDigit_zeros 1⟩

/-- **Digits with a point in place** are a numeral that stands for the same number. -/
theorem exists_numeral (hds : ds ∈ digits) (e : ℤ) :
    ∃ whole fraction, Numeral (positional ds e) whole fraction ∧
      (Decimal.read whole fraction).value =
        Nat.ofDigitChars 10 ds 0 * 10 ^ (e + 1 - ds.length) := by
  obtain ⟨hne, hall⟩ := mem_digits.1 hds
  by_cases he : e < 0
  · have hfraction : List.replicate (-e - 1).toNat '0' ++ ds ∈ digits :=
      mem_digits.2 ⟨by simp [hne], List.forall_mem_append.2 ⟨forall_isDigit_zeros _, hall⟩⟩
    have hread : Nat.ofDigitChars 10 (['0'] ++ (List.replicate (-e - 1).toNat '0' ++ ds)) 0 =
        10 ^ 0 * Nat.ofDigitChars 10 ds 0 := by
      rw [← List.append_assoc, Nat.ofDigitChars_append, ← List.replicate_one,
        List.replicate_append_replicate, Nat.ofDigitChars_replicate_zero, Nat.mul_zero, pow_zero,
        one_mul]
    refine ⟨['0'], _, ⟨zero_mem_digits, .inr ⟨hfraction, positional_of_neg he⟩⟩, ?_⟩
    rw [value_read_of_zeros hread, List.length_append, List.length_replicate]
    congr 2
    omega
  by_cases hlength : ds.length ≤ e.toNat + 1
  · obtain ⟨n, hn⟩ : ∃ n, n = e.toNat + 1 - ds.length := ⟨_, rfl⟩
    have hwhole : ds ++ List.replicate n '0' ∈ digits :=
      mem_digits.2 ⟨by simp [hne], List.forall_mem_append.2 ⟨hall, forall_isDigit_zeros _⟩⟩
    have hread : Nat.ofDigitChars 10 (ds ++ List.replicate n '0' ++ ['0']) 0 =
        10 ^ (n + 1) * Nat.ofDigitChars 10 ds 0 := by
      rw [List.append_assoc, ← List.replicate_one, List.replicate_append_replicate,
        Nat.ofDigitChars_append, Nat.ofDigitChars_replicate_zero]
    refine ⟨_, ['0'], ⟨hwhole, .inr ⟨zero_mem_digits, ?_⟩⟩, ?_⟩
    · rw [hn]
      exact positional_of_length_le he hlength
    · rw [value_read_of_zeros hread, List.length_singleton]
      congr 2
      omega
  · have hlt := not_le.1 hlength
    have hwhole : ds.take (e.toNat + 1) ∈ digits :=
      mem_digits.2 ⟨by simp [hne], fun c hc => hall c (List.mem_of_mem_take hc)⟩
    have hfraction : ds.drop (e.toNat + 1) ∈ digits :=
      mem_digits.2 ⟨by simpa using hlt, fun c hc => hall c (List.mem_of_mem_drop hc)⟩
    have hread : Nat.ofDigitChars 10 (ds.take (e.toNat + 1) ++ ds.drop (e.toNat + 1)) 0 =
        10 ^ 0 * Nat.ofDigitChars 10 ds 0 := by
      rw [List.take_append_drop, pow_zero, one_mul]
    refine ⟨_, _, ⟨hwhole, .inr ⟨hfraction, positional_of_lt_length he hlt⟩⟩, ?_⟩
    rw [value_read_of_zeros hread, List.length_drop]
    congr 2
    omega

end

end Layout

namespace Decimal

theorem digits_mem_digits (d : Decimal) : d.digits ∈ Grammar.digits :=
  mem_digits.2 ⟨Nat.toDigits_ne_nil, fun _ hc =>
    Nat.isDigit_of_mem_toDigits (by decide) (by decide) hc⟩

/-- **A decimal written positionally** is a numeral that stands for it. -/
theorem exists_numeral_write {layout : Layout} {d : Decimal}
    (hlow : layout.lowest ≤ d.leadingExponent) (hhigh : d.leadingExponent ≤ layout.highest) :
    ∃ whole fraction, Numeral (layout.write d) whole fraction ∧
      (read whole fraction).value = d.value := by
  obtain ⟨whole, fraction, hnumeral, hvalue⟩ :=
    Layout.exists_numeral d.digits_mem_digits d.leadingExponent
  refine ⟨whole, fraction, ?_, ?_⟩
  · unfold Layout.write
    rwa [if_pos ⟨hlow, hhigh⟩]
  · rw [hvalue, ← exponent_eq, digits, Nat.ofDigitChars_ten_toDigits, value]

end Decimal

end LoxLexer
