/-
# Configuration

How fast a machine runs, how much memory it has, and which of the historical
readings of two ambiguous instructions it follows. The reading is never guessed
from the program.
-/

import Chip8.Memory
import Chip8.Seconds

namespace Chip8

/-- The choice between historical readings of an instruction. -/
structure Dialect where
  /-- Whether `8XY6` and `8XYE` shift VY into VX instead of shifting VX in place. -/
  legacyShift : Bool := false
  /-- Whether `BNNN` adds V0 instead of the register that its leading operand nibble names. -/
  legacyJumpOffset : Bool := true
  deriving DecidableEq, Repr

/-- What a machine is built from. -/
structure Config where
  /-- The rate of execution; zero counts as one. -/
  instructionsPerSecond : UInt32 := 500
  /-- The capacity of the memory in bytes. -/
  memorySize : Nat := defaultCapacity
  /-- The readings to follow. -/
  dialect : Dialect := {}
  deriving DecidableEq, Repr

/-- The seconds that one instruction takes. -/
def Config.instructionPeriod {τ : Type} [Seconds τ] (config : Config) : τ :=
  Seconds.ofNat 1 / Seconds.ofNat (max config.instructionsPerSecond 1).toNat

end Chip8
