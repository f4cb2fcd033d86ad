/-
# Decoding

Every word decodes, in two steps: the leading nibble chooses the family, and
within the families 0, 8, E and F the rest of the word chooses the instruction.
Families 5 and 9 do not look at the last nibble. All other words without a
meaning decode to `Instruction.unknown`, which carries the word.
-/

import Chip8.Instruction

namespace Chip8

/-- The operation that the last nibble of a word of family 8 stands for. -/
def AluOp.ofNibble? : UInt8 → Option AluOp
  | 0x0 => some .copy
  | 0x1 => some .or
  | 0x2 => some .and
  | 0x3 => some .xor
  | 0x4 => some .add
  | 0x5 => some .subtract
  | 0x6 => some .shiftRight
  | 0x7 => some .subtractFrom
  | 0xE => some .shiftLeft
  | _ => none

namespace Instruction

/-- Family F: the lower byte chooses what happens to register X. -/
def ofByteF? (x : UInt8) : UInt8 → Option Instruction
  | 0x07 => some (.readDelay x)
  | 0x0A => some (.awaitKey x)
  | 0x15 => some (.setDelay x)
  | 0x18 => some (.setSound x)
  | 0x1E => some (.addIndex x)
  | 0x29 => some (.pointGlyph x)
  | 0x33 => some (.storeDigits x)
  | 0x55 => some (.storeRegisters x)
  | 0x65 => some (.loadRegisters x)
  | _ => none

/-- Family E: the lower byte chooses the condition on the key in register X. -/
def ofByteE? (x : UInt8) : UInt8 → Option Instruction
  | 0x9E => some (.skipIfKey x)
  | 0xA1 => some (.skipUnlessKey x)
  | _ => none

/-- Family 0: two words with a meaning. -/
def ofWord0? : UInt16 → Option Instruction
  | 0x00E0 => some .clearScreen
  | 0x00EE => some .ret
  | _ => none

/-- The instruction that a word stands for, if it stands for one. -/
def ofOpcode? (op : Opcode) : Option Instruction :=
  match op.family with
  | 0x0 => ofWord0? op.word
  | 0x1 => some (.jump op.nnn)
  | 0x2 => some (.call op.nnn)
  | 0x3 => some (.skipIfByte op.x op.nn)
  | 0x4 => some (.skipUnlessByte op.x op.nn)
  | 0x5 => some (.skipIfSame op.x op.y)
  | 0x6 => some (.setByte op.x op.nn)
  | 0x7 => some (.addByte op.x op.nn)
  | 0x8 => (AluOp.ofNibble? op.n).map fun operation => .alu operation op.x op.y
  | 0x9 => some (.skipUnlessSame op.x op.y)
  | 0xA => some (.setIndex op.nnn)
  | 0xB => some (.jumpOffset op.nnn op.x)
  | 0xC => some (.random op.x op.nn)
  | 0xD => some (.draw op.x op.y op.n)
  | 0xE => ofByteE? op.x op.nn
  | 0xF => ofByteF? op.x op.nn
  | _ => none

/-- The meaning of a word. -/
def decode (op : Opcode) : Instruction :=
  (ofOpcode? op).getD (.unknown op)

end Instruction

end Chip8
