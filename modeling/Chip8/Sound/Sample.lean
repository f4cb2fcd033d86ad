/-
# Samples

A square wave has two levels, a fifth of the full range above and below zero.
The level is the number nearest to one fifth that has 24 binary digits, so that
all ten formats carry the same value. Integers count steps of the format's
smallest value and are cut off towards zero; unsigned ones put zero in the
middle of their range.

A wave whose rate is zero has no level. As an integer it is silence.
-/

import Chip8.Sound.Device

namespace Chip8

/-- The levels of a square wave. -/
inductive Level where
  | high
  | low
  | undefined
  deriving DecidableEq, Repr

/-- One sample as a device takes it. -/
inductive Sample where
  /-- A signed or unsigned integer. -/
  | integer (value : Int)
  /-- The bits of a number of single precision. -/
  | single (bits : UInt32)
  /-- The bits of a number of double precision. -/
  | double (bits : UInt64)
  deriving DecidableEq, Repr

namespace Level

/-- The numerator of the amplitude; the denominator is `2 ^ amplitudeShift`. -/
def amplitude : Nat := 13421773

/-- The binary logarithm of the denominator of the amplitude. -/
def amplitudeShift : Nat := 26

/-- A level in steps of a signed integer format of so many bits. -/
def toSigned (level : Level) (bits : Nat) : Int :=
  let steps : Int := (amplitude <<< (bits - 1) >>> amplitudeShift : Nat)
  match level with
  | .high => steps
  | .low => -steps
  | .undefined => 0

/-- A level in steps of an unsigned integer format of so many bits. -/
def toUnsigned (level : Level) (bits : Nat) : Int :=
  level.toSigned bits + (1 <<< (bits - 1) : Nat)

/-- A level in single precision. -/
def toSingle : Level → UInt32
  | .high => 0x3E4CCCCD
  | .low => 0xBE4CCCCD
  | .undefined => 0x7FC00000

/-- A level in double precision. -/
def toDouble : Level → UInt64
  | .high => 0x3FC99999A0000000
  | .low => 0xBFC99999A0000000
  | .undefined => 0x7FF8000000000000

end Level

/-- A level as a sample of a format. -/
def SampleFormat.encode (format : SampleFormat) (level : Level) : Sample :=
  match format with
  | .i8 => .integer (level.toSigned 8)
  | .i16 => .integer (level.toSigned 16)
  | .i32 => .integer (level.toSigned 32)
  | .i64 => .integer (level.toSigned 64)
  | .u8 => .integer (level.toUnsigned 8)
  | .u16 => .integer (level.toUnsigned 16)
  | .u32 => .integer (level.toUnsigned 32)
  | .u64 => .integer (level.toUnsigned 64)
  | .f32 => .single level.toSingle
  | .f64 => .double level.toDouble

end Chip8
