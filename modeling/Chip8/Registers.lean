/-
# The register file

Sixteen byte registers V0 to VF, the program counter, the index register I and
the two timers. Registers are named by a byte; a number above fifteen is a
breach. The program counter and I are 16 bits wide and wrap around.
-/

import Chip8.Fault
import Chip8.Font
import Chip8.Timer

namespace Chip8

/-- Everything that the processor holds besides its call stack. -/
structure Registers (τ : Type) where
  /-- V0 to VF. -/
  values : Vector UInt8 16
  /-- The address of the instruction that comes next. -/
  pc : UInt16
  /-- I, the address that memory instructions work on. -/
  index : UInt16
  /-- The timer that a program can read. -/
  delay : Timer τ
  /-- The timer that keeps the buzzer on. -/
  sound : Timer τ
  deriving Repr

namespace Registers

variable {τ : Type}

/-- The register that many instructions use for their one-bit second result. -/
def flagRegister : Fin 16 := Fin.last 15

/-- The registers of a machine that has not started. -/
def start [Seconds τ] : Registers τ where
  values := Vector.replicate 16 0
  pc := .ofNat romStart
  index := 0
  delay := .ofByte 0
  sound := .ofByte 0

/-- The place in the register file that a number names. -/
def slot (number : UInt8) : Except Breach (Fin 16) :=
  if inside : number.toNat < 16 then .ok ⟨number.toNat, inside⟩
  else .error (.noRegister number)

/-- The value of a register. -/
def get (registers : Registers τ) (number : UInt8) : Except Breach UInt8 := do
  let place ← slot number
  return registers.values.get place

/-- Give a place in the register file a value. -/
def put (registers : Registers τ) (place : Fin 16) (value : UInt8) : Registers τ :=
  { registers with values := registers.values.setIfInBounds place value }

/-- Give a register a value. -/
def set (registers : Registers τ) (number value : UInt8) : Except Breach (Registers τ) := do
  let place ← slot number
  return registers.put place value

/-- Add to a register, dropping what does not fit into a byte. -/
def add (registers : Registers τ) (number value : UInt8) : Except Breach (Registers τ) := do
  let place ← slot number
  return registers.put place (registers.values.get place + value)

/-- Set VF to 1 or 0. -/
def setFlag (registers : Registers τ) (flag : Bool) : Registers τ :=
  registers.put flagRegister flag.toUInt8

/-- Go to the next instruction. -/
def advance (registers : Registers τ) : Registers τ :=
  { registers with pc := registers.pc + 2 }

/-- Go back to the instruction that was fetched last. -/
def retreat (registers : Registers τ) : Registers τ :=
  { registers with pc := registers.pc - 2 }

/-- Go to the next instruction if a condition holds. -/
def skipIf (registers : Registers τ) (condition : Bool) : Registers τ :=
  if condition then registers.advance else registers

/-- Continue at an address. -/
def jump (registers : Registers τ) (target : UInt16) : Registers τ :=
  { registers with pc := target }

/-- Point I at an address. -/
def setIndex (registers : Registers τ) (target : UInt16) : Registers τ :=
  { registers with index := target }

/-- Move I forward. -/
def addIndex (registers : Registers τ) (offset : UInt8) : Registers τ :=
  { registers with index := registers.index + offset.toUInt16 }

/-- Let time pass for both timers. -/
def decayTimers [Seconds τ] (registers : Registers τ) (elapsed : τ) : Registers τ :=
  { registers with
    delay := registers.delay.decay elapsed
    sound := registers.sound.decay elapsed }

end Registers

end Chip8
