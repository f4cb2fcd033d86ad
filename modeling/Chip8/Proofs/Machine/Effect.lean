/-
# What an instruction does

Six kinds of instruction can meet a fault, and `fault?` says when, and which one, by
looking at the call stack, the capacity of the memory and I. `effect` says what an
instruction does that meets none. Neither is written in steps that may fail, and
`execute_eq` says that together they are what executing amounts to.

That needs the operands to fit a word, and two facts about the machine which are
collected in `Consistent`: its call stack has the depth of a machine, and what is
latched is a key. So no instruction that was decoded can break a contract. Without
these facts the same holds of `stop?`, which asks the machine instead.
-/

import Chip8.Machine.Cycle
import Chip8.Proofs.Machine.KeyWait
import Chip8.Proofs.Memory.Span
import Chip8.Proofs.Operand

namespace Chip8

/-- The address of the glyph of a digit. -/
def glyphPlace (digit : UInt8) : UInt16 :=
  .ofNat (fontStart + digit.toNat * glyphHeight)

/-- The low nibble of a byte is a digit, and so it has a glyph. -/
theorem glyphAddress_and (byte : UInt8) :
    glyphAddress (byte &&& 0xF) = .ok (glyphPlace (byte &&& 0xF)) := by
  have small := toNat_and_lt byte
  have digit : byte &&& 0xF ≤ 0xF := by
    rw [UInt8.le_iff_toNat_le]
    exact Nat.le_of_lt_succ small
  rw [glyphAddress, if_pos digit]
  rfl

namespace Machine

variable {τ δ ρ β : Type}

/-- The fault that an instruction meets on a machine, if it meets one. -/
def fault? (machine : Machine τ δ ρ β) : Instruction → Option Fault
  | .ret => if machine.stack.addresses = [] then some .stackUnderflow else none
  | .call _ =>
      if machine.stack.addresses.length = 16 then some (.stackOverflow 16) else none
  | .draw _ _ height => machine.memory.spanFault? machine.registers.index height.toNat
  | .storeDigits _ => machine.memory.spanFault? machine.registers.index 3
  | .storeRegisters x | .loadRegisters x =>
      machine.memory.spanFault? machine.registers.index (x.toNat + 1)
  | _ => none

/-- What stops an instruction on a machine, if anything does. Its call stack may have
any depth, and what is latched need not be a key. -/
def stop? (machine : Machine τ δ ρ β) (instruction : Instruction) : Option Stop :=
  match instruction with
  | .call _ =>
      if machine.stack.addresses.length = machine.stack.depth then
        some (.fault (.stackOverflow machine.stack.depth))
      else none
  | .awaitKey _ =>
      (machine.awaitedKey.filter (16 ≤ ·.toNat)).map fun key => .breach (.noKey key)
  | _ => (machine.fault? instruction).map .fault

/-- What holds of every machine that this library builds. -/
structure Consistent (machine : Machine τ δ ρ β) : Prop where
  /-- The call stack is as deep as that of a machine. -/
  depth_eq : machine.stack.depth = 16
  /-- Only a key can be latched. -/
  latch_lt : ∀ key, machine.awaitedKey = some key → key.toNat < 16

/-- The target of a jump to `base` plus a register. -/
def jumpTarget (machine : Machine τ δ ρ β) (base : UInt16) (x : UInt8) : UInt16 :=
  base + (machine.registers.value (if machine.dialect.legacyJumpOffset then 0 else x)).toUInt16

section Peripherals

variable [Display δ] [ScreenDisplay δ]

/-- Whether the key is down that the low nibble of a register names. -/
def keyDown (machine : Machine τ δ ρ β) (x : UInt8) : Bool :=
  (ScreenDisplay.keypad machine.display).holds (machine.registers.value x &&& 0xF)

/-- The machine that has drawn the sprite at I. -/
def drawn (machine : Machine τ δ ρ β) (x y height : UInt8) : Machine τ δ ρ β :=
  let registers := machine.registers
  let sprite := machine.memory.span registers.index height.toNat
  let (display, collided) :=
    ScreenDisplay.drawn machine.display sprite (registers.value x) (registers.value y)
  { machine with display, registers := registers.setFlag collided }

/-- What an instruction does to a machine on which it meets no fault. -/
def effect [Seconds τ] [RandomSource ρ] (machine : Machine τ δ ρ β)
    (instruction : Instruction) : Machine τ δ ρ β :=
  let registers := machine.registers
  match instruction with
  | .clearScreen => { machine with display := Display.clearScreen machine.display }
  | .ret => { machine with
      stack := { machine.stack with addresses := machine.stack.addresses.tail }
      registers := registers.jump (machine.stack.addresses.headD 0) }
  | .jump target => { machine with registers := registers.jump target }
  | .call target => { machine with
      stack := { machine.stack with addresses := registers.pc :: machine.stack.addresses }
      registers := registers.jump target }
  | .skipIfByte x byte => { machine with
      registers := registers.skipIf (registers.value x == byte) }
  | .skipUnlessByte x byte => { machine with
      registers := registers.skipIf (registers.value x != byte) }
  | .skipIfSame x y => { machine with
      registers := registers.skipIf (registers.value x == registers.value y) }
  | .skipUnlessSame x y => { machine with
      registers := registers.skipIf (registers.value x != registers.value y) }
  | .setByte x byte => { machine with registers := registers.put (Registers.place x) byte }
  | .addByte x byte => { machine with
      registers := registers.put (Registers.place x) (registers.value x + byte) }
  | .alu op x y => { machine with
      registers := registers.compute machine.dialect.legacyShift op x y }
  | .setIndex target => { machine with registers := registers.setIndex target }
  | .jumpOffset base x => { machine with registers := registers.jump (machine.jumpTarget base x) }
  | .random x mask =>
      let (byte, random) := RandomSource.nextByte machine.random
      { machine with random, registers := registers.put (Registers.place x) (byte &&& mask) }
  | .draw x y height => machine.drawn x y height
  | .skipIfKey x => { machine with registers := registers.skipIf (machine.keyDown x) }
  | .skipUnlessKey x => { machine with registers := registers.skipIf (!machine.keyDown x) }
  | .readDelay x => { machine with
      registers := registers.put (Registers.place x) registers.delay.ticks }
  | .awaitKey x => machine.await x
  | .setDelay x => { machine with
      registers := { registers with delay := .ofByte (registers.value x) } }
  | .setSound x => { machine with
      registers := { registers with sound := .ofByte (registers.value x) } }
  | .addIndex x => { machine with registers := registers.addIndex (registers.value x) }
  | .pointGlyph x => { machine with
      registers := registers.setIndex (glyphPlace (registers.value x &&& 0xF)) }
  | .storeDigits x => { machine with
      memory := machine.memory.withOverlay registers.index.toNat
        (Memory.decimalDigits (registers.value x)) }
  | .storeRegisters x => { machine with
      memory := machine.memory.withOverlay registers.index.toNat
        (registers.values.toList.take (x.toNat + 1)) }
  | .loadRegisters x => { machine with
      registers := { registers with
        values := machine.memory.loaded registers.index x registers.values } }
  | .unknown op => machine.record (.unknownWord op (registers.pc - 2))

end Peripherals

/-! ## Operands -/

section Operands

variable (machine : Machine τ δ ρ β) {x y height : UInt8}

/-- A jump of twelve bits plus a byte stays within sixteen. -/
theorem offsetTarget_of_lt {base : UInt16} (short : base.toNat < 4096)
    (small : x.toNat < 16) : machine.offsetTarget base x = .ok (machine.jumpTarget base x) := by
  have chosen : (if machine.dialect.legacyJumpOffset then 0 else x).toNat < 16 := by
    split
    · decide
    · exact small
  have offset := (machine.registers.value
    (if machine.dialect.legacyJumpOffset then 0 else x)).toNat_lt
  rw [offsetTarget, Registers.get_of_lt _ chosen, ok_bind, if_pos (by omega)]
  rfl

variable [Display δ]

theorem draw_of_some {fault : Fault} (hx : x.toNat < 16) (hy : y.toNat < 16)
    (outside : machine.memory.spanFault? machine.registers.index height.toNat = some fault) :
    machine.draw x y height = .error (.fault fault) := by
  rw [draw, Registers.get_of_lt _ hx, Registers.get_of_lt _ hy, Memory.sprite,
    Memory.read_of_some outside]
  rfl

variable [ScreenDisplay δ]

theorem draw_of_none (hx : x.toNat < 16) (hy : y.toNat < 16)
    (inside : machine.memory.spanFault? machine.registers.index height.toNat = none) :
    machine.draw x y height = .ok (machine.drawn x y height) := by
  rw [draw, Registers.get_of_lt _ hx, Registers.get_of_lt _ hy, Memory.sprite,
    Memory.read_of_none inside]
  simp only [liftBreach_ok, liftFault_ok, ok_bind, ScreenDisplay.drawSprite_eq_ok]
  rfl

/-- The key that a register names with its low nibble can always be asked about. -/
theorem isKeyPressed_of_lt (small : x.toNat < 16) :
    machine.isKeyPressed x = .ok (machine.keyDown x) := by
  rw [isKeyPressed, Registers.get_of_lt _ small, ok_bind,
    ScreenDisplay.isKeyPressed_of_lt _ (toNat_and_lt _)]
  rfl

end Operands

/-! ## All instructions -/

variable {machine : Machine τ δ ρ β} {instruction : Instruction}

/-- If what is latched is a key, waiting for it does not stop. -/
theorem stop?_awaitKey_of_lt {x : UInt8}
    (latch_lt : ∀ key, machine.awaitedKey = some key → key.toNat < 16) :
    machine.stop? (.awaitKey x) = none := by
  cases latched : machine.awaitedKey with
  | none => simp [stop?, latched]
  | some key => simp [stop?, latched, latch_lt key latched]

/-- On a consistent machine only faults stop an instruction. -/
theorem Consistent.stop?_eq (consistent : machine.Consistent) :
    machine.stop? instruction = (machine.fault? instruction).map .fault := by
  cases instruction with
  | call target =>
      simp only [stop?, fault?, consistent.depth_eq]
      split <;> rfl
  | awaitKey x => exact stop?_awaitKey_of_lt consistent.latch_lt
  | _ => rfl

section Execute

variable [Display δ] [ScreenDisplay δ] [Seconds τ] [RandomSource ρ]

/-- An instruction whose operands fit a word either stops, and then nothing happens, or
has its effect. -/
theorem execute_eq_of_inRange (machine : Machine τ δ ρ β) (fits : instruction.InRange) :
    machine.execute instruction =
      match machine.stop? instruction with
      | some stop => (machine, .error stop)
      | none => (machine.effect instruction, .ok ()) := by
  obtain ⟨small, short⟩ := fits
  cases instruction
  -- In each case `small` and `short` become bounds on the operands that there are.
  all_goals
    simp only [Instruction.nibbles, Instruction.addresses, List.mem_cons, List.not_mem_nil,
      or_false, forall_eq_or_imp, forall_eq] at small short
  case clearScreen => rfl
  case ret =>
      simp only [execute, stop?, fault?, effect, CallStack.pop]
      cases machine.stack.addresses with
      | nil => rfl
      | cons address rest => rfl
  case jump target => rfl
  case call target =>
      by_cases full : machine.stack.addresses.length = machine.stack.depth
      · have refused : machine.stack.push machine.registers.pc =
            .error (.stackOverflow machine.stack.depth) := if_pos full
        simp only [execute, stop?, if_pos full, refused]
        rfl
      · have pushed : machine.stack.push machine.registers.pc =
            .ok { machine.stack with
              addresses := machine.registers.pc :: machine.stack.addresses } := if_neg full
        simp only [execute, stop?, if_neg full, pushed]
        rfl
  case skipIfByte x byte | skipUnlessByte x byte =>
      simp only [execute, Registers.get_of_lt _ small]
      rfl
  case skipIfSame x y | skipUnlessSame x y =>
      simp only [execute, Registers.get_of_lt _ small.1, Registers.get_of_lt _ small.2]
      rfl
  case setByte x byte =>
      simp only [execute, Registers.set_of_lt _ small]
      rfl
  case addByte x byte =>
      simp only [execute, Registers.add_of_lt _ small]
      rfl
  case alu op x y =>
      simp only [execute, Registers.alu_of_lt _ small.1 small.2]
      rfl
  case setIndex target => rfl
  case jumpOffset base x =>
      simp only [execute, offsetTarget_of_lt machine short small]
      rfl
  case random x mask =>
      simp only [execute, Registers.set_of_lt _ small]
      rfl
  case draw x y height =>
      obtain ⟨hx, hy, -⟩ := small
      simp only [execute, stop?, fault?]
      cases refused : machine.memory.spanFault? machine.registers.index height.toNat with
      | some fault =>
          rw [draw_of_some machine hx hy refused]
          rfl
      | none =>
          rw [draw_of_none machine hx hy refused]
          rfl
  case skipIfKey x | skipUnlessKey x =>
      simp only [execute, isKeyPressed_of_lt machine small]
      rfl
  case readDelay x =>
      simp only [execute, Registers.set_of_lt _ small]
      rfl
  case awaitKey x =>
      by_cases known : ∀ key, machine.awaitedKey = some key → key.toNat < 16
      · simp only [execute, effect, stop?_awaitKey_of_lt known, awaitKey_of_lt small known]
      · obtain ⟨key, latched, large⟩ : ∃ key, machine.awaitedKey = some key ∧ 16 ≤ key.toNat := by
          simpa using known
        have kept : machine.awaitedKey.filter (16 ≤ ·.toNat) = some key := by
          rw [latched]
          simp [large]
        simp only [execute, stop?, kept, awaitKey_of_noKey latched large, Option.map_some]
  case setDelay x | setSound x | addIndex x =>
      simp only [execute, Registers.get_of_lt _ small]
      rfl
  case pointGlyph x =>
      simp only [execute, Registers.get_of_lt _ small, liftBreach_ok, ok_bind, glyphAddress_and]
      rfl
  case storeDigits x =>
      simp only [execute, stop?, fault?, Registers.get_of_lt _ small, liftBreach_ok, ok_bind]
      cases refused : machine.memory.spanFault? machine.registers.index 3 with
      | some fault =>
          rw [Memory.storeDigits_of_some refused]
          rfl
      | none =>
          rw [Memory.storeDigits_of_none refused]
          rfl
  case storeRegisters x =>
      simp only [execute, stop?, fault?]
      cases refused : machine.memory.spanFault? machine.registers.index (x.toNat + 1) with
      | some fault =>
          rw [Memory.storeRegisters_of_some _ refused]
          rfl
      | none =>
          rw [Memory.storeRegisters_of_none _ small refused]
          rfl
  case loadRegisters x =>
      simp only [execute, stop?, fault?]
      cases refused : machine.memory.spanFault? machine.registers.index (x.toNat + 1) with
      | some fault =>
          rw [Memory.loadRegisters_of_some _ refused]
          rfl
      | none =>
          rw [Memory.loadRegisters_of_none _ small refused]
          rfl
  case unknown op => rfl

/-- An instruction whose operands fit a word either meets a fault, and then nothing
happens, or has its effect. -/
theorem execute_eq (consistent : machine.Consistent) (fits : instruction.InRange) :
    machine.execute instruction =
      match machine.fault? instruction with
      | some fault => (machine, .error (.fault fault))
      | none => (machine.effect instruction, .ok ()) := by
  rw [execute_eq_of_inRange machine fits, consistent.stop?_eq]
  cases machine.fault? instruction <;> rfl

end Execute

end Machine

end Chip8
