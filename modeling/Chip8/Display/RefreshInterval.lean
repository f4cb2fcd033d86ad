/-
# The refresh interval

The time between two frames at a rate of so many frames a second, in whole
nanoseconds. It is rounded twice, and each time to nearest: the reciprocal of the
rate to the 53 binary digits of double precision, then the result to whole
nanoseconds.
-/

import Chip8.Rounding

namespace Chip8.RefreshInterval

/-- Binary digits of a number of double precision. -/
def doubleDigits : Nat := 53

/-- How many binary places the reciprocal of a positive number needs so that
53 digits are left of the point. A power of two needs one less than the numbers
that follow it. -/
def places (rate : Nat) : Nat :=
  doubleDigits - 1 + rate.log2 + (if rate = 1 <<< rate.log2 then 0 else 1)

/-- The reciprocal of a positive number in double precision, as a multiple of
`2 ^ -places`. -/
def reciprocal (rate : Nat) : Nat :=
  Rounding.divide (1 <<< places rate) rate

/-- Nanoseconds between two frames. A rate of zero counts as one. -/
def ofRate (refreshRate : UInt32) : Nat :=
  let rate := max refreshRate.toNat 1
  Rounding.divide (reciprocal rate * 1000000000) (1 <<< places rate)

end Chip8.RefreshInterval
