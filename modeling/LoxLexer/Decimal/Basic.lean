import LoxLexer.Binary64.Nearest

/-! # Decimal numbers

A decimal is a coefficient times a power of ten. `Decimal.read` takes one from the digits before
and after a point, `Decimal.nearest?` rounds one to binary64.
-/

set_option autoImplicit false

namespace LoxLexer

/-- The number `coefficient * 10 ^ exponent`. -/
structure Decimal where
  coefficient : Nat
  exponent : Int
deriving DecidableEq

namespace Decimal

/-- The decimal written as the digits `whole`, a point and the digits `fraction`. -/
def read (whole fraction : List Char) : Decimal :=
  ⟨Nat.ofDigitChars 10 (whole ++ fraction) 0, -(fraction.length : Int)⟩

/-- The digits of the coefficient. -/
def digits (d : Decimal) : List Char := Nat.toDigits 10 d.coefficient

/-- The power of ten that the first digit counts. -/
def leadingExponent (d : Decimal) : Int := d.exponent + (d.digits.length - 1 : Nat)

/-- The binary64 number nearest to a decimal, if that is finite. -/
def nearest? (d : Decimal) : Option Binary64 :=
  Binary64.nearest? (d.coefficient * Nat.pow 10 d.exponent.toNat) (Nat.pow 10 (-d.exponent).toNat)

end Decimal

end LoxLexer
