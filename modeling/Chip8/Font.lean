/-
# The built-in font

Sixteen glyphs, one for each hexadecimal digit, of five rows each. The upper
four bits of a row are its pixels. The glyphs lie one after the other in
memory, from `fontStart` on, in the part that programs are asked to leave alone.
-/

import Chip8.Fault

namespace Chip8

/-- Where the glyphs begin. -/
def fontStart : Nat := 0x50

/-- Where programs begin. -/
def romStart : Nat := 0x200

/-- Rows in a glyph. -/
def glyphHeight : Nat := 5

/-- The rows of all glyphs in the order of their digits. -/
def font : List UInt8 := [
  0xF0, 0x90, 0x90, 0x90, 0xF0,
  0x20, 0x60, 0x20, 0x20, 0x70,
  0xF0, 0x10, 0xF0, 0x80, 0xF0,
  0xF0, 0x10, 0xF0, 0x10, 0xF0,
  0x90, 0x90, 0xF0, 0x10, 0x10,
  0xF0, 0x80, 0xF0, 0x10, 0xF0,
  0xF0, 0x80, 0xF0, 0x90, 0xF0,
  0xF0, 0x10, 0x20, 0x40, 0x40,
  0xF0, 0x90, 0xF0, 0x90, 0xF0,
  0xF0, 0x90, 0xF0, 0x10, 0xF0,
  0xF0, 0x90, 0xF0, 0x90, 0x90,
  0xE0, 0x90, 0xE0, 0x90, 0xE0,
  0xF0, 0x80, 0x80, 0x80, 0xF0,
  0xE0, 0x90, 0x90, 0x90, 0xE0,
  0xF0, 0x80, 0xF0, 0x80, 0xF0,
  0xF0, 0x80, 0xF0, 0x80, 0x80]

/-- The address of the glyph of a digit. -/
def glyphAddress (digit : UInt8) : Except Breach UInt16 :=
  if digit ≤ 0xF then .ok (.ofNat (fontStart + digit.toNat * glyphHeight))
  else .error (.noGlyph digit)

end Chip8
