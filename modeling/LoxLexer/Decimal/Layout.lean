import LoxLexer.Decimal.Shortest

/-! # Laying out decimals

A decimal is written positionally, with a point and at least one digit on each side of it, or in
scientific form, with one digit before the point and an exponent. A `Layout` says which leading
exponents are written positionally.
-/

set_option autoImplicit false

namespace LoxLexer

/-- The first digit's power of ten lies from `lowest` to `highest` in positional form. -/
structure Layout where
  lowest : Int
  highest : Int

namespace Layout

/-- Digits whose first counts `10 ^ e`, with a point in place. A whole number gets the fraction
`0`. -/
def positional (digits : List Char) (e : Int) : List Char :=
  if e < 0 then '0' :: '.' :: (List.replicate (-e - 1).toNat '0' ++ digits)
  else
    let places := e.toNat + 1
    let whole := digits.take places
    let fraction := digits.drop places
    whole ++ List.replicate (places - whole.length) '0' ++
      '.' :: (if fraction.isEmpty then ['0'] else fraction)

/-- Digits whose first counts `10 ^ e`, with the exponent written out. A single digit gets no
point. -/
def scientific (digits : List Char) (e : Int) : List Char :=
  let mantissa := match digits with
    | first :: second :: more => first :: '.' :: second :: more
    | short => short
  let sign := if e < 0 then ['-'] else []
  mantissa ++ 'e' :: (sign ++ Nat.toDigits 10 e.natAbs)

def write (layout : Layout) (d : Decimal) : List Char :=
  let e := d.leadingExponent
  if layout.lowest ≤ e ∧ e ≤ layout.highest then positional d.digits e
  else scientific d.digits e

end Layout

end LoxLexer
