/-
# Instructions

The instruction set: 35 instructions and one case for words that mean nothing.
Operands keep the width at which they are carried. A register operand is a byte
here, although decoding only ever produces numbers below sixteen, because an
instruction can also be given to the machine by hand; then a number above
fifteen is a breach of contract.

The nine arithmetic instructions on two registers share one shape and are told
apart by an `AluOp`.
-/

import Chip8.Opcode

namespace Chip8

/-- The operations of the family `8XY_` on registers X and Y. -/
inductive AluOp where
  /-- Word `8XY0`: Y is copied into X. -/
  | copy
  /-- Word `8XY1`. -/
  | or
  /-- Word `8XY2`. -/
  | and
  /-- Word `8XY3`. -/
  | xor
  /-- Word `8XY4`. -/
  | add
  /-- Word `8XY5`: X minus Y. -/
  | subtract
  /-- Word `8XY6`. -/
  | shiftRight
  /-- Word `8XY7`: Y minus X. -/
  | subtractFrom
  /-- Word `8XYE`. -/
  | shiftLeft
  deriving DecidableEq, Repr

/-- One instruction with its operands. -/
inductive Instruction where
  /-- Word `00E0`. -/
  | clearScreen
  /-- Word `00EE`: leave the subroutine. -/
  | ret
  /-- Word `1NNN`. -/
  | jump (target : UInt16)
  /-- Word `2NNN`: enter a subroutine. -/
  | call (target : UInt16)
  /-- Word `3XNN`: skip the next instruction if VX is NN. -/
  | skipIfByte (x value : UInt8)
  /-- Word `4XNN`: skip the next instruction unless VX is NN. -/
  | skipUnlessByte (x value : UInt8)
  /-- Word `5XY_`: skip the next instruction if VX is VY, whatever the last nibble. -/
  | skipIfSame (x y : UInt8)
  /-- Word `9XY_`: skip the next instruction unless VX is VY, whatever the last nibble. -/
  | skipUnlessSame (x y : UInt8)
  /-- Word `6XNN`. -/
  | setByte (x value : UInt8)
  /-- Word `7XNN`: add without a flag. -/
  | addByte (x value : UInt8)
  /-- Word `8XY_`. -/
  | alu (op : AluOp) (x y : UInt8)
  /-- Word `ANNN`. -/
  | setIndex (target : UInt16)
  /-- Word `BNNN`: jump to NNN plus a register, which the dialect chooses. -/
  | jumpOffset (base : UInt16) (x : UInt8)
  /-- Word `CXNN`: a random byte masked by NN. -/
  | random (x mask : UInt8)
  /-- Word `DXYN`: draw the N rows at I with the top left corner at (VX, VY). -/
  | draw (x y height : UInt8)
  /-- Word `EX9E`: skip the next instruction if the key in VX is down. -/
  | skipIfKey (x : UInt8)
  /-- Word `EXA1`: skip the next instruction unless the key in VX is down. -/
  | skipUnlessKey (x : UInt8)
  /-- Word `FX07`. -/
  | readDelay (x : UInt8)
  /-- Word `FX0A`: wait for a key to go down and come up again. -/
  | awaitKey (x : UInt8)
  /-- Word `FX15`. -/
  | setDelay (x : UInt8)
  /-- Word `FX18`. -/
  | setSound (x : UInt8)
  /-- Word `FX1E`: add VX to I without a flag. -/
  | addIndex (x : UInt8)
  /-- Word `FX29`: point I at the glyph of the digit in VX. -/
  | pointGlyph (x : UInt8)
  /-- Word `FX33`: store the three decimal digits of VX at I. -/
  | storeDigits (x : UInt8)
  /-- Word `FX55`: store V0 to VX at I. -/
  | storeRegisters (x : UInt8)
  /-- Word `FX65`: load V0 to VX from I. -/
  | loadRegisters (x : UInt8)
  /-- A word that is no instruction. -/
  | unknown (op : Opcode)
  deriving DecidableEq, Repr

end Chip8
