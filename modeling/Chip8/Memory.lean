/-
# Memory

A flat run of bytes with the font at its foot and, from `romStart` on, room for
a program. Every access names a span of bytes, and every span is checked
against the capacity before a byte is read or written. Addresses are compared
as natural numbers, so nothing wraps around, also where a span that starts near
the last 16-bit address ends beyond it. A refused access changes nothing.

A memory may be larger than what spans from 16-bit addresses reach. Of the bytes
beyond, only those are kept that a program was put into; all others are zero.

The two ways through which all reading and writing goes are `read` and `write`;
the other operations say what is read or written.
-/

import Chip8.Font
import Chip8.Opcode

namespace Chip8

/-- How many bytes lie in spans of up to 256 bytes that start at a 16-bit address. -/
def spanReach : Nat := 0x10000 + 0xFF

/-- The bytes of a machine. -/
structure Memory where
  /-- The bytes in the order of their addresses. Those behind them are zero. -/
  bytes : Array UInt8
  /-- The number of all bytes. -/
  capacity : Nat
  /-- The length of the program that was loaded last. -/
  romLength : Nat
  /-- No byte that a span reaches is missing. -/
  reach_le_size : min capacity spanReach ≤ bytes.size

/-- The memory that a machine has unless its configuration says otherwise. -/
def defaultCapacity : Nat := 4096

namespace Memory

/-- Lay `data` over the bytes from `start` on. What does not fit is left out. -/
def overlay (bytes : Array UInt8) (start : Nat) : List UInt8 → Array UInt8
  | [] => bytes
  | byte :: rest => overlay (bytes.setIfInBounds start byte) (start + 1) rest

/-- Laying data over bytes does not change their number. -/
@[simp]
theorem size_overlay (bytes : Array UInt8) (start : Nat) (data : List UInt8) :
    (overlay bytes start data).size = bytes.size := by
  induction data generalizing bytes start with
  | nil => rfl
  | cons byte rest ih => simp [overlay, ih]

/-- The memory with `data` laid over its bytes from `start` on. -/
def withOverlay (memory : Memory) (start : Nat) (data : List UInt8) : Memory :=
  { memory with
    bytes := overlay memory.bytes start data
    reach_le_size := by simp [memory.reach_le_size] }

/-- The memory with all of its first `size` bytes kept. -/
def grow (memory : Memory) (size : Nat) : Memory :=
  { memory with
    bytes := memory.bytes ++ Array.replicate (size - memory.bytes.size) 0
    reach_le_size := by
      rw [Array.size_append]
      exact Nat.le_add_right_of_le memory.reach_le_size }

/-- A memory of zeros. -/
def zeros (capacity : Nat) : Memory where
  bytes := Array.replicate (min capacity spanReach) 0
  capacity
  romLength := 0
  reach_le_size := by simp

/-- A memory that holds the font and zeros. It must have room for the first
512 bytes, which belong to the interpreter, and may not be larger than any table. -/
def ofCapacity (capacity : Nat) : Except Breach Memory :=
  if capacity < romStart then .error .memoryTooSmall
  else if tableLimit < capacity then .error .tableTooLarge
  else .ok ((zeros capacity).withOverlay fontStart font)

/-- Put a program at `romStart`, if it fits. Bytes behind it keep what an
earlier program left there. -/
def loadRom (memory : Memory) (rom : List UInt8) : Except LoadError Memory :=
  let available := memory.capacity - romStart
  if available < rom.length then .error (.outOfSpace rom.length available romStart)
  else .ok { (memory.grow (romStart + rom.length)).withOverlay romStart rom with
    romLength := rom.length }

/-- Refuse a span that does not lie inside the memory. -/
def checkSpan (memory : Memory) (address : UInt16) (length : Nat) : Except Fault Unit :=
  if address.toNat + length ≤ memory.capacity then .ok ()
  else .error (.outOfBounds address.toNat length memory.capacity)

/-- The bytes of a span. -/
def read (memory : Memory) (address : UInt16) (length : Nat) : Except Fault (List UInt8) := do
  memory.checkSpan address length
  return (memory.bytes.extract address.toNat (address.toNat + length)).toList

/-- The memory after `data` was written to the span that starts at an address. -/
def write (memory : Memory) (address : UInt16) (data : List UInt8) : Except Fault Memory := do
  memory.checkSpan address data.length
  return memory.withOverlay address.toNat data

/-- The byte at an address. -/
def get (memory : Memory) (address : UInt16) : Except Fault UInt8 := do
  return (← memory.read address 1).headD 0

/-- The word at an address, its higher byte first. -/
def fetch (memory : Memory) (address : UInt16) : Except Fault Opcode := do
  let word ← memory.read address 2
  return .ofBytes (word.getD 0 0) (word.getD 1 0)

/-- The rows of a sprite. -/
def sprite (memory : Memory) (address : UInt16) (height : UInt8) : Except Fault (List UInt8) :=
  memory.read address height.toNat

/-- The hundreds, tens and ones of a byte. -/
def decimalDigits (value : UInt8) : List UInt8 :=
  [value / 100, value / 10 % 10, value % 10]

/-- Write the decimal digits of a byte to the three bytes from an address on. -/
def storeDigits (memory : Memory) (address : UInt16) (value : UInt8) : Except Fault Memory :=
  memory.write address (decimalDigits value)

/-- Write the first `last + 1` of some registers to the bytes from an address on.
The span is checked first, then whether there are so many registers. -/
def storeRegisters {n : Nat} (memory : Memory) (address : UInt16) (last : UInt8)
    (registers : Vector UInt8 n) : Except Stop Memory := do
  let length := last.toNat + 1
  memory.checkSpan address length
  if n < length then throw (.breach .outsideTable)
  memory.write address (registers.toList.take length)

/-- The registers after the first `last + 1` of them were read from the bytes from
an address on. The span is checked first, then whether there are so many
registers. -/
def loadRegisters {n : Nat} (memory : Memory) (address : UInt16) (last : UInt8)
    (registers : Vector UInt8 n) : Except Stop (Vector UInt8 n) := do
  let length := last.toNat + 1
  let stored ← memory.read address length
  if n < length then throw (.breach .outsideTable)
  return registers.mapIdx fun index old => stored.getD index old

end Memory

end Chip8
