/-
# Executing one instruction

What each instruction does to a machine whose program counter already points
behind it. An instruction that stops has not happened, with two exceptions that
only a breach can show: a random byte stays drawn, and a key stays latched, if
there is no register to put it in.

Waiting for a key is one instruction that is executed again and again: it moves
the program counter back to itself until a key has gone down and has come up
again. Which key that is, is remembered between the executions.
-/

import Chip8.Machine
import Chip8.Machine.Alu

namespace Chip8.Machine

variable {τ δ ρ β : Type} [Seconds τ] [Display δ] [RandomSource ρ]

/-- The sixteen keys in ascending order. -/
def hexKeys : List UInt8 := (List.range 16).map .ofNat

/-- The first of some keys that is down. -/
def firstPressed? (display : δ) : List UInt8 → Except Breach (Option UInt8)
  | [] => .ok none
  | key :: rest => do
      if ← Display.isKeyPressed display key then return some key
      firstPressed? display rest

/-- Whether the key is down that the low nibble of a register names. -/
def isKeyPressed (machine : Machine τ δ ρ β) (x : UInt8) : Except Breach Bool := do
  Display.isKeyPressed machine.display ((← machine.registers.get x) &&& 0xF)

/-- The target of a jump to `base` plus a register. It must have a 16-bit address. -/
def offsetTarget (machine : Machine τ δ ρ β) (base : UInt16) (x : UInt8) :
    Except Breach UInt16 := do
  let offset ← machine.registers.get (if machine.dialect.legacyJumpOffset then 0 else x)
  if base.toNat + offset.toNat < 65536 then return base + offset.toUInt16
  else throw .addressOverflow

/-- Execute the instruction again. -/
def repeatInstruction (machine : Machine τ δ ρ β) : Machine τ δ ρ β :=
  { machine with registers := machine.registers.retreat }

/-- Wait for a key to go down and come up again. Register X has its number as soon
as it is down. -/
def awaitKey (machine : Machine τ δ ρ β) (x : UInt8) : Machine τ δ ρ β × Except Stop Unit :=
  match machine.awaitedKey with
  | none =>
      match firstPressed? machine.display hexKeys with
      | .error breach => (machine, .error (.breach breach))
      | .ok none => (machine.repeatInstruction, .ok ())
      | .ok (some key) =>
          let latched := { machine with awaitedKey := some key }.record (.keyLatched key)
          latched.commit do
            return { latched with registers := ← latched.registers.set x key }.repeatInstruction
  | some key =>
      match Display.isKeyPressed machine.display key with
      | .error breach => (machine, .error (.breach breach))
      | .ok true => (machine.repeatInstruction, .ok ())
      | .ok false => ({ machine with awaitedKey := none }.record (.keyResolved key), .ok ())

/-- Draw the sprite at I; VF says whether it collided. The coordinates are read
before VF is written. -/
def draw (machine : Machine τ δ ρ β) (x y height : UInt8) : Except Stop (Machine τ δ ρ β) := do
  let column ← machine.registers.get x
  let row ← machine.registers.get y
  let sprite ← machine.memory.sprite machine.registers.index height
  let (display, collided) ← Display.drawSprite machine.display sprite column row
  return { machine with display, registers := machine.registers.setFlag collided }

/-- Execute one instruction. -/
def execute (machine : Machine τ δ ρ β) (instruction : Instruction) :
    Machine τ δ ρ β × Except Stop Unit :=
  let registers := machine.registers
  match instruction with
  | .clearScreen =>
      ({ machine with display := Display.clearScreen machine.display }, .ok ())
  | .ret => machine.commit do
      let (address, stack) ← machine.stack.pop
      return { machine with stack, registers := registers.jump address }
  | .jump target => machine.commitRegisters do
      return registers.jump target
  | .call target => machine.commit do
      let stack ← machine.stack.push registers.pc
      return { machine with stack, registers := registers.jump target }
  | .skipIfByte x value => machine.commitRegisters do
      return registers.skipIf ((← registers.get x) == value)
  | .skipUnlessByte x value => machine.commitRegisters do
      return registers.skipIf ((← registers.get x) != value)
  | .skipIfSame x y => machine.commitRegisters do
      return registers.skipIf ((← registers.get x) == (← registers.get y))
  | .skipUnlessSame x y => machine.commitRegisters do
      return registers.skipIf ((← registers.get x) != (← registers.get y))
  | .setByte x value => machine.commitRegisters do
      registers.set x value
  | .addByte x value => machine.commitRegisters do
      registers.add x value
  | .alu op x y => machine.commitRegisters do
      registers.alu machine.dialect.legacyShift op x y
  | .setIndex target => machine.commitRegisters do
      return registers.setIndex target
  | .jumpOffset base x => machine.commitRegisters do
      return registers.jump (← machine.offsetTarget base x)
  | .random x mask =>
      let (byte, random) := RandomSource.nextByte machine.random
      { machine with random }.commitRegisters do
        registers.set x (byte &&& mask)
  | .draw x y height => machine.commit (machine.draw x y height)
  | .skipIfKey x => machine.commitRegisters do
      return registers.skipIf (← machine.isKeyPressed x)
  | .skipUnlessKey x => machine.commitRegisters do
      return registers.skipIf (!(← machine.isKeyPressed x))
  | .readDelay x => machine.commitRegisters do
      registers.set x registers.delay.ticks
  | .awaitKey x => machine.awaitKey x
  | .setDelay x => machine.commitRegisters do
      return { registers with delay := .ofByte (← registers.get x) }
  | .setSound x => machine.commitRegisters do
      return { registers with sound := .ofByte (← registers.get x) }
  | .addIndex x => machine.commitRegisters do
      return registers.addIndex (← registers.get x)
  | .pointGlyph x => machine.commitRegisters do
      return registers.setIndex (← glyphAddress ((← registers.get x) &&& 0xF))
  | .storeDigits x => machine.commit do
      let value ← registers.get x
      return { machine with memory := ← machine.memory.storeDigits registers.index value }
  | .storeRegisters x => machine.commit do
      let memory ← machine.memory.storeRegisters registers.index x registers.values
      return { machine with memory }
  | .loadRegisters x => machine.commitRegisters do
      let values ← machine.memory.loadRegisters registers.index x registers.values
      return { registers with values }
  | .unknown op => (machine.record (.unknownWord op (registers.pc - 2)), .ok ())

end Chip8.Machine
