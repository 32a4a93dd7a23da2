import LoxLexer.Proofs.Decimal.Layout
import LoxLexer.Proofs.Decimal.Shortest
import LoxLexer.Proofs.Lexeme.Basic

/-! # Printed numbers scan back

A number is printed with the digits of its shortest decimal, which rounds back to it. Rounding keeps
the order, so where the number lies within the bounds of the positional form its shortest decimal
does too (`leadingExponent_shortest`), and is written as a numeral. `scan_render_number` says that
the scan of this numeral is the number again.
-/

set_option autoImplicit false

namespace LoxLexer

namespace Binary64

/-! ## The bounds of the positional form -/

theorem value_zero : (⟨0⟩ : Binary64).value = 0 := by
  have hunits : (⟨0⟩ : Binary64).units = 0 := rfl
  rw [value_of_nonneg rfl, hunits, Nat.cast_zero, zero_mul]

theorem value_of_fields {x : Binary64} {e f : Nat} (hsign : x.isNegative = false)
    (he : x.exponentField = e) (hf : x.fraction = f) (hne : e ≠ 0) :
    x.value = (1 + f / 2 ^ 52) * (2 : ℚ) ^ ((e : ℤ) - 1023) := by
  rw [value, hsign, he, hf, if_neg hne]
  simp

/-- Ten to the power of 16. -/
def upperBound : Binary64 := ⟨0x4341C37937E08000⟩

theorem value_upperBound : upperBound.value = 10 ^ 16 := by
  rw [value_of_fields (e := 1076) (f := 0x1C37937E08000) rfl rfl rfl (by decide)]
  norm_num

/-- The first number above ten to the power of -4, which is not in the format. -/
def lowerBound : Binary64 := ⟨0x3F1A36E2EB1C432D⟩

theorem lt_value_lowerBound : 1 / 10 ^ 4 < lowerBound.value := by
  rw [value_of_fields (e := 1009) (f := 0xA36E2EB1C432D) rfl rfl rfl (by decide)]
  norm_num

theorem magnitude_lowerBound_le {x : Binary64} (hsign : x.isNegative = false)
    (h : 1 / 10 ^ 4 ≤ x.value) : lowerBound.magnitude ≤ x.magnitude := by
  have hbelow : (⟨0x3F1A36E2EB1C432C⟩ : Binary64).value < 1 / 10 ^ 4 := by
    rw [value_of_fields (e := 1009) (f := 0xA36E2EB1C432C) rfl rfl rfl (by decide)]
    norm_num
  exact magnitude_lt_of_value_lt hsign (hbelow.trans_le h) rfl

end Binary64

open Binary64

/-- **The shortest decimal is printed positionally** where the number is within the bounds. -/
theorem leadingExponent_shortest {x : Binary64} (hfinite : x.isFinite = true)
    (hsign : x.isNegative = false) (hlow : 1 / 10 ^ 4 ≤ x.value) (hhigh : x.value < 10 ^ 16) :
    -4 ≤ (Decimal.shortest x).leadingExponent ∧ (Decimal.shortest x).leadingExponent ≤ 15 := by
  obtain ⟨hnear, -⟩ := Decimal.nearest?_eq_some_iff.1 (Decimal.nearest?_shortest hfinite hsign)
  constructor
  · by_contra hlead
    have hvalue : (Decimal.shortest x).value ≤ lowerBound.value := by
      calc (Decimal.shortest x).value
          ≤ 10 ^ ((Decimal.shortest x).leadingExponent + 1) := (Decimal.value_lt_zpow _).le
        _ ≤ 10 ^ (-4 : ℤ) := zpow_le_zpow_right₀ (by norm_num) (by omega)
        _ = 1 / 10 ^ 4 := by norm_num
        _ ≤ lowerBound.value := lt_value_lowerBound.le
    have hle : x.value ≤ lowerBound.value := hnear.le_of_le_value rfl hvalue
    have hmagnitude : ¬ lowerBound.magnitude < x.magnitude := fun hlt =>
      absurd (value_lt_value rfl hsign hlt) (not_lt.2 hle)
    have hx : x = lowerBound := by
      apply eq_of_magnitude_eq hsign rfl
      have hge := magnitude_lowerBound_le hsign hlow
      omega
    -- the first number within the bounds is printed as the bound itself
    have hbound : (Decimal.shortest lowerBound).leadingExponent = -4 := by decide +kernel
    rw [hx] at hlead
    omega
  · by_contra hlead
    have hne : (Decimal.shortest x).value ≠ 0 := by
      intro hzero
      have hle : x.value ≤ (⟨0⟩ : Binary64).value :=
        hnear.le_of_le_value rfl (hzero.trans value_zero.symm).le
      rw [value_zero] at hle
      linarith
    have hvalue : upperBound.value ≤ (Decimal.shortest x).value := by
      calc upperBound.value = 10 ^ (16 : ℤ) := value_upperBound
        _ ≤ 10 ^ (Decimal.shortest x).leadingExponent :=
          zpow_le_zpow_right₀ (by norm_num) (by omega)
        _ ≤ (Decimal.shortest x).value := Decimal.zpow_leadingExponent_le_value hne
    have hle : upperBound.value ≤ x.value := hnear.le_of_value_le rfl hvalue
    rw [value_upperBound] at hle
    linarith

/-! ## Printing and scanning -/

theorem Grammar.Numeral.newline_not_mem {w whole fraction : List Char}
    (h : Numeral w whole fraction) : '\n' ∉ w := by
  have hdigits : ∀ {ds}, ds ∈ digits → '\n' ∉ ds := fun hds hc =>
    absurd ((mem_digits.1 hds).2 _ hc) (by decide)
  obtain ⟨hwhole, ⟨-, rfl⟩ | ⟨hfraction, rfl⟩⟩ := h
  · exact hdigits hwhole
  · simp [hdigits hwhole, hdigits hfraction]

theorem Literal.render_number {x : Binary64} (hfinite : x.isFinite = true)
    (hsign : x.isNegative = false) :
    (Literal.number x).render = String.ofList (numberLayout.write (Decimal.shortest x)) := by
  have htop : (x.exponentField == topExponent) = false := by simpa [isFinite] using hfinite
  simp [Literal.render, renderNumber, isNaN, isInfinite, htop, hsign]

/-- **Printed numbers scan back.** A finite number without a sign that is zero, or is not less than
ten to the power of -4 and less than ten to the power of 16, is printed as a text that scans to
this very number, with the whole text as its lexeme, and to nothing else. -/
theorem scan_render_number (x : Binary64) (hfinite : x.isFinite = true)
    (hsign : x.isNegative = false)
    (hrange : x.magnitude = 0 ∨ 1 / 10 ^ 4 ≤ x.value ∧ x.value < 10 ^ 16) :
    (scan (Literal.number x).render).errors = [] ∧
      (scan (Literal.number x).render).tokens =
        [⟨.number x, (Literal.number x).render, 1⟩, Token.endOfFile 1] := by
  have hbounds : -4 ≤ (Decimal.shortest x).leadingExponent ∧
      (Decimal.shortest x).leadingExponent ≤ 15 := by
    rcases hrange with hzero | ⟨hlow, hhigh⟩
    · rw [Decimal.shortest, if_pos hzero]
      decide
    · exact leadingExponent_shortest hfinite hsign hlow hhigh
  obtain ⟨whole, fraction, hnumeral, hvalue⟩ :
      ∃ whole fraction, Grammar.Numeral (Literal.numberLayout.write (Decimal.shortest x)) whole
        fraction ∧ (Decimal.read whole fraction).value = (Decimal.shortest x).value :=
    Decimal.exists_numeral_write hbounds.1 hbounds.2
  obtain ⟨hvalid, htext⟩ := Grammar.valid_of_numeral hnumeral
  have hkind : (Piece.number whole fraction).kind? = some (.number x) := by
    have hread : (Decimal.read whole fraction).nearest? = some x := by
      rw [Decimal.nearest?_eq_some_iff, hvalue, ← Decimal.nearest?_eq_some_iff]
      exact Decimal.nearest?_shortest hfinite hsign
    rw [Piece.kind?, hread]
    rfl
  have hrender : (Piece.number whole fraction).text = (Literal.number x).render.toList := by
    rw [htext, Literal.render_number hfinite hsign, String.toList_ofList]
  have hitems := Piece.itemsFrom_text hvalid hkind hrender 1
  have hline : (Literal.number x).render.toList.count '\n' = 0 := by
    rw [← hrender, htext]
    exact List.count_eq_zero.2 hnumeral.newline_not_mem
  refine ⟨?_, ?_⟩
  · rw [errors_scan, hitems]
    rfl
  · rw [tokens_scan, hitems, hline]
    rfl

/-- The sum of 0.1 and 0.2 takes seventeen digits. -/
theorem scan_render_number_sum :
    (Literal.number ⟨0x3FD3333333333334⟩).render = "0.30000000000000004" ∧
      (scan "0.30000000000000004").errors = [] ∧
      (scan "0.30000000000000004").tokens =
        [⟨.number ⟨0x3FD3333333333334⟩, "0.30000000000000004", 1⟩, Token.endOfFile 1] := by
  have hrender : (Literal.number ⟨0x3FD3333333333334⟩).render = "0.30000000000000004" := by
    decide +kernel
  have hvalue : (⟨0x3FD3333333333334⟩ : Binary64).value =
      (1 + (0x3333333333334 : Nat) / 2 ^ 52) * (2 : ℚ) ^ (((1021 : Nat) : ℤ) - 1023) :=
    value_of_fields rfl rfl rfl (by decide)
  have hrange : 1 / 10 ^ 4 ≤ (⟨0x3FD3333333333334⟩ : Binary64).value ∧
      (⟨0x3FD3333333333334⟩ : Binary64).value < 10 ^ 16 := by
    rw [hvalue]
    norm_num
  have hscan := scan_render_number ⟨0x3FD3333333333334⟩ rfl rfl (.inr hrange)
  rw [hrender] at hscan
  exact ⟨hrender, hscan⟩

end LoxLexer
