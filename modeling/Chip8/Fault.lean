/-
# How a machine can stop

A running program can do three things wrong: reach outside the memory, return
from a subroutine it never entered, or nest its calls too deeply. These are
`Fault`s. They belong to the program, they are answers of the machine, and the
state that meets one stays usable.

A `Breach` is something else: a caller of this library broke the contract of an
operation, for example by naming a seventeenth register. No program can cause
one, whatever bytes it consists of. The operations nevertheless say what
happens, so that this is a statement about them and not a convention.

A `Stop` is either of the two.
-/

import Chip8.Text.Hex

namespace Chip8

open Text

/-- What a program can do wrong. -/
inductive Fault where
  /-- The `length` bytes from `address` on do not lie inside a memory of
  `capacity` bytes. -/
  | outOfBounds (address length capacity : Nat)
  /-- A return while no subroutine is active. -/
  | stackUnderflow
  /-- A call while `depth` subroutines are already active. -/
  | stackOverflow (depth : Nat)
  deriving DecidableEq, Repr

/-- The wording of a fault. -/
def Fault.message : Fault → String
  | .outOfBounds address length capacity =>
      s!"access of {length} byte(s) at {markedAddress address} is outside the " ++
        s!"{capacity}-byte address space"
  | .stackUnderflow => "return from subroutine with an empty call stack"
  | .stackOverflow depth => s!"call stack overflow: more than {depth} nested subroutine calls"

/-- A broken contract between this library and its caller. -/
inductive Breach where
  /-- A word has the nibbles 0 to 3. -/
  | nibblePosition (position : UInt8)
  /-- A word has the bytes 0 and 1. -/
  | bytePosition (position : UInt8)
  /-- The registers are V0 to VF. -/
  | noRegister (number : UInt8)
  /-- The keys are 0 to F. -/
  | noKey (number : UInt8)
  /-- The font has the glyphs 0 to F. -/
  | noGlyph (digit : UInt8)
  /-- A memory has room for the interpreter's own first 512 bytes. -/
  | memoryTooSmall
  /-- A position outside a fixed table of pixels, registers or samples. -/
  | outsideTable
  /-- A jump target that has no 16-bit address. -/
  | addressOverflow
  /-- A table of more bytes than can have an address of their own. -/
  | tableTooLarge
  deriving DecidableEq, Repr

/-- The most bytes that a table of the machine may have: the greatest number of 64 bits
with a sign. -/
def tableLimit : Nat := 0x7FFFFFFFFFFFFFFF

/-- The wording of a breach. The last three kinds have none. -/
def Breach.message? : Breach → Option String
  | .nibblePosition position => some s!"nibble position {position} out of range"
  | .bytePosition position => some s!"byte position {position} out of range"
  | .noRegister number => some s!"no register V{upperHex number.toNat}"
  | .noKey number => some s!"no hex key {markedHex number.toNat}"
  | .noGlyph digit => some s!"no font glyph for {markedHex digit.toNat}"
  | .memoryTooSmall => some "memory must be at least 0x200 bytes"
  | .outsideTable => none
  | .addressOverflow => none
  | .tableTooLarge => none

/-- Why an operation of the machine gave no answer. -/
inductive Stop where
  /-- The program is at fault. -/
  | fault (fault : Fault)
  /-- The caller is at fault. -/
  | breach (breach : Breach)
  deriving DecidableEq, Repr

/-- A fault inside a larger operation stops that operation. -/
instance : MonadLift (Except Fault) (Except Stop) where
  monadLift result := result.mapError .fault

/-- A breach inside a larger operation stops that operation. -/
instance : MonadLift (Except Breach) (Except Stop) where
  monadLift result := result.mapError .breach

/-- Why a program could not be put into memory. -/
inductive LoadError where
  /-- The program is `length` bytes long and `available` bytes lie behind `start`. -/
  | outOfSpace (length available start : Nat)
  /-- The file at `path` gave no bytes, for the reason `cause` of the system. -/
  | unreadable (path cause : String)
  deriving DecidableEq, Repr

/-- The wording of a failed load. -/
def LoadError.message : LoadError → String
  | .outOfSpace length available start =>
      s!"ROM is {length} bytes but only {available} bytes fit after {markedAddress start}"
  | .unreadable path cause => s!"unable to read ROM {path}: {cause}"

end Chip8
