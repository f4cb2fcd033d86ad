/-
# Characters as bytes

The characters between two fall into rows of byte ranges. A row says for each byte of
an encoding between which two bytes it lies; all combinations of such bytes are
encodings of characters. The rows are in the order of the characters.
-/

namespace Chip8.Text

/-- The bytes from one to another. -/
structure ByteRange where
  /-- The first byte. -/
  first : UInt8
  /-- The last byte. -/
  last : UInt8
  deriving DecidableEq, Repr

namespace ByteRange

/-- The number at which a range of characters has to be cut: where encodings become
longer, or else next to an end at which a byte behind the first does not run through
all of its values. -/
def cut? (first last : Nat) : Option Nat :=
  match [0x7F, 0x7FF, 0xFFFF].find? fun longest => first ≤ longest && longest < last with
  | some longest => some (longest + 1)
  | none =>
      if last ≤ 0x7F then none
      else [64, 64 * 64, 64 * 64 * 64].findSome? fun block =>
        if first / block == last / block then none
        else if first % block != 0 then some ((first / block + 1) * block)
        else if last % block != block - 1 then some (last / block * block)
        else none

/-- The bytes of a character. -/
def encoding (number : Nat) : List UInt8 := String.utf8EncodeChar (Char.ofNat number)

/-- The rows of the characters from one number to another, if cuts lie inside each
other at most so deep. -/
def rowsWithin : Nat → Nat → Nat → List (List ByteRange)
  | 0, _, _ => []
  | depth + 1, first, last =>
      if first ≤ 0xD7FF && 0xE000 ≤ last then
        rowsWithin depth first 0xD7FF ++ rowsWithin depth 0xE000 last
      else
        match cut? first last with
        | some middle => rowsWithin depth first (middle - 1) ++ rowsWithin depth middle last
        | none => [List.zipWith ByteRange.mk (encoding first) (encoding last)]

/-- The rows of the characters from one number to another. There is one cut at the
numbers of no characters, three where encodings become longer, and two for each byte
behind the first. -/
def rows (first last : Nat) : List (List ByteRange) := rowsWithin 11 first last

end ByteRange

end Chip8.Text
