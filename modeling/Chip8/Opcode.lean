/-
# Opcodes

An opcode is the 16-bit word that stands for one instruction. Its parts are
named by their place counted from the right: nibble 0 is the lowest four bits,
byte 1 the higher of the two bytes. Asking for a place that a word does not
have is a breach; the places that decoding uses are given as functions of their
own, which cannot fail.
-/

import Chip8.Fault

namespace Chip8

/-- One instruction word. -/
structure Opcode where
  /-- The word itself. -/
  word : UInt16
  deriving DecidableEq, Repr, Inhabited

namespace Opcode

/-- The word with the given higher and lower byte, as two cells of memory hold it. -/
def ofBytes (high low : UInt8) : Opcode :=
  ⟨high.toUInt16 <<< 8 ||| low.toUInt16⟩

/-- The nibble at a place that a word has. -/
def nibbleAt (op : Opcode) (place : Fin 4) : UInt8 :=
  (op.word >>> (4 * UInt16.ofNat place.val) &&& 0xF).toUInt8

/-- The byte at a place that a word has. -/
def byteAt (op : Opcode) (place : Fin 2) : UInt8 :=
  (op.word >>> (8 * UInt16.ofNat place.val) &&& 0xFF).toUInt8

/-- The nibble at any place, counted from the right. -/
def nibble (op : Opcode) (place : UInt8) : Except Breach UInt8 :=
  if inside : place.toNat < 4 then .ok (op.nibbleAt ⟨place.toNat, inside⟩)
  else .error (.nibblePosition place)

/-- The byte at any place, counted from the right. -/
def byte (op : Opcode) (place : UInt8) : Except Breach UInt8 :=
  if inside : place.toNat < 2 then .ok (op.byteAt ⟨place.toNat, inside⟩)
  else .error (.bytePosition place)

/-- The leading nibble, which names the family of the instruction. -/
def family (op : Opcode) : UInt8 := op.nibbleAt 3

/-- The nibble that names the first register. -/
def x (op : Opcode) : UInt8 := op.nibbleAt 2

/-- The nibble that names the second register. -/
def y (op : Opcode) : UInt8 := op.nibbleAt 1

/-- The lowest nibble. -/
def n (op : Opcode) : UInt8 := op.nibbleAt 0

/-- The lower byte. -/
def nn (op : Opcode) : UInt8 := op.byteAt 0

/-- The address operand: the lower twelve bits. -/
def nnn (op : Opcode) : UInt16 :=
  op.x.toUInt16 <<< 8 ||| op.nn.toUInt16

/-- An opcode is written as four capital digits. -/
def text (op : Opcode) : String :=
  Text.padZeros 4 (Text.upperHex op.word.toNat)

end Opcode

end Chip8
