/-
# Measures of elapsed time

The machine is told how many seconds have gone by, and all it does with that
number is to add, subtract, multiply, divide and compare. `Seconds` is the
interface to a type that can do so. A machine that runs keeps time in 64-bit
floating point, rounding after each operation; a machine that is reasoned about
may keep it in rational numbers, where nothing is rounded.
-/

namespace Chip8

/-- A type in which elapsed time can be kept. -/
class Seconds (τ : Type) extends Add τ, Sub τ, Mul τ, Div τ where
  /-- A whole number of seconds. -/
  ofNat : Nat → τ
  /-- Whether the first of two times is the smaller. -/
  less : τ → τ → Bool
  /-- The whole part, held between 0 and 255. -/
  toByte : τ → UInt8

namespace Seconds

variable {τ : Type} [Seconds τ]

/-- A number of nanoseconds: the whole seconds plus the fraction. -/
def ofNanoseconds (nanoseconds : Nat) : τ :=
  ofNat (nanoseconds / 1000000000) + ofNat (nanoseconds % 1000000000) / ofNat 1000000000

end Seconds

/-- Time in 64-bit floating point. -/
instance : Seconds Float where
  ofNat := Float.ofNat
  less a b := a < b
  toByte := Float.toUInt8

/-- Time in rational numbers. -/
instance : Seconds Rat where
  ofNat n := n
  less a b := decide (a < b)
  toByte a := .ofNat (min a.floor.toNat 255)

end Chip8
