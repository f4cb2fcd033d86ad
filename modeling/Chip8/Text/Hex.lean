/-
# Hexadecimal numerals

Addresses, opcodes and key names are written in base sixteen, some in capital
and some in small letters, and most of them padded on the left with zeros to a
least width. A numeral that is already longer than the width is never cut.
-/

namespace Chip8.Text

/-- The digits of `n` in base sixteen, in small letters. -/
def lowerHex (n : Nat) : String :=
  String.ofList (Nat.toDigits 16 n)

/-- The digits of `n` in base sixteen, in capital letters. -/
def upperHex (n : Nat) : String :=
  String.ofList ((Nat.toDigits 16 n).map Char.toUpper)

/-- Put zeros in front of `text` until it has at least `width` characters. -/
def padZeros (width : Nat) (text : String) : String :=
  String.ofList (List.replicate (width - text.length) '0') ++ text

/-- An address as the log writes it: at least three small digits and no mark. -/
def address (n : Nat) : String :=
  padZeros 3 (lowerHex n)

/-- An address as error messages write it: marked with `0x`, then at least
three small digits. -/
def markedAddress (n : Nat) : String :=
  "0x" ++ address n

/-- A number marked with `0x` and written with as few small digits as it needs. -/
def markedHex (n : Nat) : String :=
  "0x" ++ lowerHex n

end Chip8.Text
