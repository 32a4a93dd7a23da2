import LoxLexer.Binary64.Basic

/-! # The nearest binary64 number

`Binary64.nearest? n d` rounds the quotient `n / d` to the nearest number of the format, a half
going to the number with an even pattern. Patterns of non-negative numbers count upwards with
their values, so the rounded quotient of a binade is simply added to the binade's first pattern,
and a carry into the next binade needs no case of its own.
-/

set_option autoImplicit false

namespace LoxLexer

/-- `n / d` rounded to the nearest natural number, a half going to the even one. -/
def roundHalfEven (n d : Nat) : Nat :=
  if 2 * (n % d) < d then n / d
  else if d < 2 * (n % d) then n / d + 1
  else n / d + n / d % 2

theorem roundHalfEven_lower (n d : Nat) : n / d ≤ roundHalfEven n d := by
  unfold roundHalfEven
  split
  · exact Nat.le_refl _
  · split <;> omega

theorem roundHalfEven_upper (n d : Nat) : roundHalfEven n d ≤ n / d + 1 := by
  unfold roundHalfEven
  split
  · omega
  · split <;> omega

namespace Binary64

/-- How many doublings there are from one unit to the spacing of the numbers near `n / d` units. -/
def binade (n d : Nat) : Nat := (n / d).log2 - 52

/-- The pattern of the non-negative number nearest to `n / d`, as if exponents had no end. -/
def nearestPattern (n d : Nat) : Nat :=
  let scaled := n <<< 1074
  let s := binade scaled d
  s * fractionCount + roundHalfEven scaled (d <<< s)

/-- The first pattern that stands for no finite number. -/
def infinityPattern : Nat := topExponent * fractionCount

/-- The number nearest to `n / d`, if that is finite. -/
def nearest? (n d : Nat) : Option Binary64 :=
  let p := nearestPattern n d
  if p < infinityPattern then some ⟨UInt64.ofNat p⟩ else none

theorem nearest?_eq_none_iff (n d : Nat) :
    nearest? n d = none ↔ infinityPattern ≤ nearestPattern n d := by
  simp [nearest?]

end Binary64

end LoxLexer
