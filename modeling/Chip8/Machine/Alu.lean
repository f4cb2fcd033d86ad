/-
# Arithmetic on two registers

The family `8XY_`. All operands are read before anything is written, and VF is
written last, so that the flag wins where X is F. Copying writes no flag, and
the three bitwise operations clear it. A shift takes its operand from register
X, or from register Y in the older dialect, and then X need not be read nor Y
exist.
-/

import Chip8.Instruction
import Chip8.Registers

namespace Chip8.Registers

variable {τ : Type}

/-- Put a result into register X and its flag into VF. -/
def putWithFlag (registers : Registers τ) (x : UInt8) (result : UInt8 × Bool) :
    Except Breach (Registers τ) := do
  return (← registers.set x result.1).setFlag result.2

/-- An operation on the values of X and Y, in this order. -/
def combine (registers : Registers τ) (x y : UInt8) (operation : UInt8 → UInt8 → UInt8 × Bool) :
    Except Breach (Registers τ) := do
  let left ← registers.get x
  let right ← registers.get y
  registers.putWithFlag x (operation left right)

/-- Add; the flag is the carry. -/
def sum (left right : UInt8) : UInt8 × Bool :=
  (left + right, 255 < left.toNat + right.toNat)

/-- Subtract; the flag says that nothing was borrowed. -/
def difference (left right : UInt8) : UInt8 × Bool :=
  (left - right, right ≤ left)

/-- Halve; the flag is the bit that falls out. -/
def halve (operand : UInt8) : UInt8 × Bool :=
  (operand >>> 1, operand &&& 1 == 1)

/-- Double; the flag is the bit that falls out. -/
def double (operand : UInt8) : UInt8 × Bool :=
  (operand <<< 1, operand &&& 0x80 != 0)

/-- The register that a shift takes its operand from. -/
def shiftSource (legacyShift : Bool) (x y : UInt8) : UInt8 :=
  if legacyShift then y else x

/-- The registers after an instruction of the family `8XY_`. -/
def alu (registers : Registers τ) (legacyShift : Bool) (op : AluOp) (x y : UInt8) :
    Except Breach (Registers τ) :=
  match op with
  | .copy => do registers.set x (← registers.get y)
  | .or => registers.combine x y fun left right => (left ||| right, false)
  | .and => registers.combine x y fun left right => (left &&& right, false)
  | .xor => registers.combine x y fun left right => (left ^^^ right, false)
  | .add => registers.combine x y sum
  | .subtract => registers.combine x y difference
  | .subtractFrom => registers.combine x y fun left right => difference right left
  | .shiftRight => do
      registers.putWithFlag x (halve (← registers.get (shiftSource legacyShift x y)))
  | .shiftLeft => do
      registers.putWithFlag x (double (← registers.get (shiftSource legacyShift x y)))

end Chip8.Registers
