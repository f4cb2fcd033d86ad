/-
# Quoted text

A text between double quotes, with everything that cannot be seen by itself written
by an escape: a few control characters by a letter of their own, all others by
their number in braces.
-/

import Chip8.Text.Extending
import Chip8.Text.Hex
import Chip8.Text.Unassigned

namespace Chip8.Text

/-- Controls, format characters, the separators other than the space, and the
numbers for private use, by first and last number. -/
def shapelessRanges : List (Nat × Nat) := [
  (0x00, 0x1F), (0x7F, 0xA0), (0xAD, 0xAD), (0x600, 0x605), (0x61C, 0x61C), (0x6DD, 0x6DD),
  (0x70F, 0x70F), (0x890, 0x891), (0x8E2, 0x8E2), (0x1680, 0x1680), (0x180E, 0x180E),
  (0x2000, 0x200F), (0x2028, 0x202F), (0x205F, 0x2064), (0x2066, 0x206F), (0x3000, 0x3000),
  (0xE000, 0xF8FF), (0xFEFF, 0xFEFF), (0xFFF9, 0xFFFB), (0x110BD, 0x110BD), (0x110CD, 0x110CD),
  (0x13430, 0x1343F), (0x1BCA0, 0x1BCA3), (0x1D173, 0x1D17A), (0xE0001, 0xE0001),
  (0xE0020, 0xE007F), (0xF0000, 0xFFFFD), (0x100000, 0x10FFFD)]

/-- The letters that only fill the place of a sound, by first and last number. -/
def fillerRanges : List (Nat × Nat) := [
  (0x115F, 0x1160), (0x3164, 0x3164), (0xFFA0, 0xFFA0)]

/-- The narrow marks for a voiced sound. They extend the character before them, but
are letters with a place of their own. -/
def isVoicingMark (c : Char) : Bool := isAmong [(0xFF9E, 0xFF9F)] c

/-- Whether a character cannot be seen by itself: it has no shape, it fills a place
without a shape, it is drawn with the character before it, or there is none of its
number. -/
def isUnseen (c : Char) : Bool :=
  isAmong shapelessRanges c || isAmong fillerRanges c ||
    (isExtending c && !isVoicingMark c) || isUnassigned c

/-- A character inside quotes. -/
def escaped (c : Char) : String :=
  match c with
  | '\x00' => "\\0"
  | '\t' => "\\t"
  | '\n' => "\\n"
  | '\r' => "\\r"
  | '"' => "\\\""
  | '\\' => "\\\\"
  | _ =>
      if isUnseen c then "\\u\x7b" ++ lowerHex c.toNat ++ "\x7d"
      else c.toString

/-- A text between quotes. -/
def quoted (text : String) : String :=
  "\"" ++ String.join (text.toList.map escaped) ++ "\""

end Chip8.Text
