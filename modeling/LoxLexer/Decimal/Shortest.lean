import LoxLexer.Decimal.Basic

/-! # The shortest decimal of a binary64 number

The decimals that round to a given number fill an interval around it. The shortest of them lies
on the coarsest grid of multiples of a power of ten that meets the interval, and if a grid meets
the interval then one of the number's two neighbours on that grid lies in it, so only these two
are tried.

All of it is done in units of `10 ^ -1075`. Half of the least positive number is `5 ^ 1075` such
units, so the number, the ends of its interval and every grid point are whole numbers, and the
finest grid contains the number itself.
-/

set_option autoImplicit false

namespace LoxLexer

/-- The numbers from `low` to `high`, which round to `value`; the ends do so when `closed`. -/
structure RoundingInterval where
  low : Nat
  value : Nat
  high : Nat
  closed : Bool

namespace RoundingInterval

/-- Half of `2 ^ -1074`, in units of `10 ^ -1075`. -/
def halfUnit : Nat := Nat.pow 5 1075

/-- The interval of a positive finite number reaches half way to its neighbours. Below a power of
two the lower neighbour is twice as near. A half goes to the even pattern, so the ends belong to
the numbers with an even fraction. -/
def of (x : Binary64) : RoundingInterval :=
  let centre := 2 * x.units
  let above := 1 <<< x.gap
  let below := if x.fraction = 0 ∧ 1 < x.exponentField then 1 <<< (x.gap - 1) else above
  { low := (centre - below) * halfUnit
    value := centre * halfUnit
    high := (centre + above) * halfUnit
    closed := x.fraction % 2 == 0 }

def contains (i : RoundingInterval) (m : Nat) : Bool :=
  if i.closed then decide (i.low ≤ m ∧ m ≤ i.high) else decide (i.low < m ∧ m < i.high)

/-- The multiplier of the grid point `k * step` in the interval that is nearest to the value, of
the value's two neighbours. A value half way between them takes the upper one. -/
def onGrid? (i : RoundingInterval) (step : Nat) : Option Nat :=
  let k := i.value / step
  match i.contains (k * step), i.contains ((k + 1) * step) with
  | true, true => if 2 * (i.value % step) < step then some k else some (k + 1)
  | true, false => some k
  | false, true => some (k + 1)
  | false, false => none

/-- The decimal on the coarsest grid, from `10 ^ n` units down, that meets the interval. -/
def coarsest (i : RoundingInterval) : Nat → Decimal
  | 0 => ⟨i.value, -1075⟩
  | n + 1 =>
    match i.onGrid? (Nat.pow 10 (n + 1)) with
    | some k => ⟨k, (n + 1 : Nat) - 1075⟩
    | none => coarsest i n

end RoundingInterval

namespace Decimal

/-- A grid that is too coarse for numbers below `2 ^ bits` halves of `2 ^ -1074`, as ten lies
between the third and the fourth power of two. -/
def coarseGrid (bits : Nat) : Nat :=
  if 1075 ≤ bits then 1075 + (bits - 1075) / 3 + 1 else 1075 - (1075 - bits) / 4

/-- The shortest decimal that rounds to the magnitude of a finite number; of several the nearest
one, and of two equally near the larger. -/
def shortest (x : Binary64) : Decimal :=
  if x.magnitude = 0 then ⟨0, 0⟩
  else (RoundingInterval.of x).coarsest (coarseGrid ((2 * x.units + (1 <<< x.gap)).log2 + 1))

end Decimal

end LoxLexer
