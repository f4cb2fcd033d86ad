/-
# Timers

A timer holds a number of sixtieths of a second and runs down to zero with the
elapsed time, independently of how many instructions are executed. It can
hold a fraction of a tick; a program only sees the whole ticks.
-/

import Chip8.Seconds

namespace Chip8

/-- A countdown at sixty ticks a second. -/
structure Timer (τ : Type) where
  /-- The ticks that remain. -/
  remaining : τ
  deriving Repr

namespace Timer

variable {τ : Type} [Seconds τ]

/-- Ticks in a second. -/
def ticksPerSecond : Nat := 60

/-- A timer that starts with a whole number of ticks. -/
def ofByte (ticks : UInt8) : Timer τ := ⟨Seconds.ofNat ticks.toNat⟩

/-- Whether any time remains. -/
def isActive (timer : Timer τ) : Bool := Seconds.less (Seconds.ofNat 0) timer.remaining

/-- The timer after `elapsed` seconds. It never goes below zero, and a timer at
zero stays there, also if time is said to run backwards. -/
def decay (timer : Timer τ) (elapsed : τ) : Timer τ :=
  if timer.isActive then
    let rest : Timer τ := ⟨timer.remaining - elapsed * Seconds.ofNat ticksPerSecond⟩
    if rest.isActive then rest else ofByte 0
  else timer

/-- The whole ticks that remain. -/
def ticks (timer : Timer τ) : UInt8 := Seconds.toByte timer.remaining

end Timer

end Chip8
