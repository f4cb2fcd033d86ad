/-
# Rounding

Rounding a quotient of natural numbers to a natural number, and rounding a
natural number to so many leading binary digits. A value halfway between two
candidates goes to the even one, as binary floating point does.
-/

namespace Chip8.Rounding

/-- The natural number nearest to a quotient; of two that are equally near, the
even one. -/
def divide (numerator denominator : Nat) : Nat :=
  let quotient := numerator / denominator
  let twice := 2 * (numerator % denominator)
  if twice < denominator then quotient
  else if denominator < twice then quotient + 1
  else quotient + quotient % 2

/-- The number with `digits` leading binary digits that is nearest to `n`. -/
def toBinaryDigits (digits n : Nat) : Nat :=
  let unit := 1 <<< (n.log2 + 1 - digits)
  divide n unit * unit

end Chip8.Rounding
