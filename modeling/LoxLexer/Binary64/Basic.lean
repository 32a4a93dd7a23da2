/-! # Numbers in the binary64 format

A number is kept as its 64-bit pattern: a sign bit, eleven exponent bits and fifty-two fraction
bits. Everything is measured on natural numbers, in *units* of `2 ^ -1074`, the distance between
neighbouring numbers around zero, so that no statement needs a native float.

* `Binary64.units`: the magnitude of a finite number, a whole number of units.
* `Binary64.sameNumber`: numeric comparison, in which zero has no sign and a NaN equals nothing.
-/

set_option autoImplicit false

namespace LoxLexer

/-- A number in the binary64 format. Values are equal when their patterns are; `sameNumber`
compares what they stand for. -/
structure Binary64 where
  bits : UInt64
deriving DecidableEq

namespace Binary64

/-! ## Fields of the pattern -/

/-- How many fractions there are, two to the power of 52. -/
def fractionCount : Nat := 0x10000000000000

/-- How many exponent fields there are. -/
def exponentCount : Nat := 0x800

/-- The weight of the sign bit, two to the power of 63. -/
def signWeight : Nat := exponentCount * fractionCount

def isNegative (x : Binary64) : Bool := decide (signWeight ≤ x.bits.toNat)

def exponentField (x : Binary64) : Nat := x.bits.toNat / fractionCount % exponentCount

def fraction (x : Binary64) : Nat := x.bits.toNat % fractionCount

/-- The pattern without its sign bit. It orders the magnitudes. -/
def magnitude (x : Binary64) : Nat := x.bits.toNat % signWeight

/-- The exponent field that stands for no finite number. -/
def topExponent : Nat := exponentCount - 1

def isFinite (x : Binary64) : Bool := x.exponentField != topExponent

def isInfinite (x : Binary64) : Bool := x.exponentField == topExponent && x.fraction == 0

def isNaN (x : Binary64) : Bool := x.exponentField == topExponent && x.fraction != 0

theorem magnitude_eq (x : Binary64) :
    x.magnitude = x.exponentField * fractionCount + x.fraction := by
  unfold magnitude exponentField fraction signWeight exponentCount fractionCount
  omega

/-! ## Magnitudes in units -/

/-- From a finite number to the next one away from zero it is one unit, doubled so many times. The
numbers below the least normal one are spaced as the least normal ones are. -/
def gap (x : Binary64) : Nat := x.exponentField - 1

/-- The fraction with the leading bit that a normal number leaves unwritten. -/
def significand (x : Binary64) : Nat :=
  if x.exponentField = 0 then x.fraction else fractionCount + x.fraction

/-- The magnitude of a finite number in units of `2 ^ -1074`. -/
def units (x : Binary64) : Nat := x.significand <<< x.gap

/-! ## Comparison -/

/-- Equality of numbers: both zeros are the same number and a NaN is not even itself. -/
def sameNumber (x y : Binary64) : Bool :=
  !x.isNaN && !y.isNaN && (x.bits == y.bits || (x.magnitude == 0 && y.magnitude == 0))

theorem sameNumber_self (x : Binary64) : x.sameNumber x = !x.isNaN := by
  simp [sameNumber]

end Binary64

end LoxLexer
