/-
# The tone

A square wave of 440 Hz. A clock counts samples and starts again after a second;
the level is the sign of a sine of the phase that belongs to the count. Phases
are computed in single precision, from left to right, and the clock counts as a
number of single precision does: up to `2 ^ 24` and not beyond.
-/

import Chip8.Rounding
import Chip8.Sound.Sample

namespace Chip8

/-- A wave that is being played. -/
structure Tone where
  /-- Samples in a second. -/
  rate : UInt32
  /-- Samples since the second began. -/
  clock : Nat
  deriving DecidableEq, Repr

namespace Tone

/-- Periods of the wave in a second. -/
def frequency : Float32 := 440

/-- The number of single precision that is nearest to half the circumference of
the unit circle. -/
def pi : Float32 := .ofBits 0x40490FDB

/-- Binary digits of a number of single precision. -/
def singleDigits : Nat := 24

/-- A wave that begins. -/
def start (rate : UInt32) : Tone := { rate, clock := 0 }

/-- The wave one sample later. -/
def advance (tone : Tone) : Tone :=
  let count := min (tone.clock + 1) (1 <<< singleDigits)
  { tone with clock := count % Rounding.toBinaryDigits singleDigits tone.rate.toNat }

/-- The phase of the wave. -/
def phase (tone : Tone) : Float32 :=
  Float32.ofNat tone.clock * frequency * 2 * pi / Float32.ofNat tone.rate.toNat

/-- The level of the wave: high where the sine of the phase has no sign. -/
def level (tone : Tone) : Level :=
  if tone.rate = 0 then .undefined
  else if tone.phase.sin.toBits >>> 31 = 0 then .high
  else .low

/-- The next level of the wave. -/
def next (tone : Tone) : Level × Tone :=
  let tone := tone.advance
  (tone.level, tone)

end Tone

end Chip8
