/-
# Keys of the host

The sixteen keys of the host's keyboard that lie on the hexadecimal keypad, the
key that ends a session, and all others, which are told apart by name and mean
nothing to the machine. The four rows of four keys on the left of the host's
keyboard stand for the four rows of the keypad:

    1 2 3 4        1 2 3 C
    Q W E R   for  4 5 6 D
    A S D F        7 8 9 E
    Z X C V        A 0 B F
-/

namespace Chip8

/-- A key of the host's keyboard. -/
inductive HostKey where
  | digit1 | digit2 | digit3 | digit4
  | q | w | e | r
  | a | s | d | f
  | z | x | c | v
  /-- The key that ends a session. -/
  | escape
  /-- Any other key. -/
  | other (name : String)
  deriving DecidableEq, Repr

namespace HostKey

/-- The key of the hexadecimal keypad that a host key stands for. -/
def hexKey? : HostKey → Option (Fin 16)
  | digit1 => some 0x1
  | digit2 => some 0x2
  | digit3 => some 0x3
  | digit4 => some 0xC
  | q => some 0x4
  | w => some 0x5
  | e => some 0x6
  | r => some 0xD
  | a => some 0x7
  | s => some 0x8
  | d => some 0x9
  | f => some 0xE
  | z => some 0xA
  | x => some 0x0
  | c => some 0xB
  | v => some 0xF
  | escape | other _ => none

/-- The host key of a name. -/
def ofName : String → HostKey
  | "Key1" => digit1
  | "Key2" => digit2
  | "Key3" => digit3
  | "Key4" => digit4
  | "Q" => q
  | "W" => w
  | "E" => e
  | "R" => r
  | "A" => a
  | "S" => s
  | "D" => d
  | "F" => f
  | "Z" => z
  | "X" => x
  | "C" => c
  | "V" => v
  | "Escape" => escape
  | name => other name

end HostKey

end Chip8
