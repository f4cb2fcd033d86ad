/-
# Blanks and lines

Which characters are blank, how a text is freed of the blanks around it, and how
it falls into lines. Blank are the space, the line and paragraph separators, the
controls that move to another place on the page, and all spaces of a certain
width. A character that has no width but does not separate words either is not
blank.
-/

namespace Chip8.Text

/-- The blank characters, by first and last number. -/
def blankRanges : List (Nat × Nat) := [
  (0x09, 0x0D), (0x20, 0x20), (0x85, 0x85), (0xA0, 0xA0), (0x1680, 0x1680),
  (0x2000, 0x200A), (0x2028, 0x2029), (0x202F, 0x202F), (0x205F, 0x205F),
  (0x3000, 0x3000)]

/-- Whether a character lies in one of some ranges. -/
def isAmong (ranges : List (Nat × Nat)) (c : Char) : Bool :=
  ranges.any fun (first, last) => first ≤ c.toNat && c.toNat ≤ last

/-- Whether a character is blank. -/
def isBlank (c : Char) : Bool := isAmong blankRanges c

/-- The text without the blanks at its end. -/
def trimEnd (text : String) : String :=
  String.ofList (text.toList.reverse.dropWhile isBlank).reverse

/-- The text without the blanks around it. -/
def trim (text : String) : String :=
  trimEnd (String.ofList (text.toList.dropWhile isBlank))

/-- A line that ended with a newline, without the carriage return in front of it. -/
def dropReturn (line : List Char) : List Char :=
  if line.getLast? == some '\r' then line.dropLast else line

/-- The lines of a text. A line ends with a newline, or with a carriage return and
a newline; behind the last newline a line begins only if there is something. -/
def lines (text : String) : List String :=
  let pieces := text.toList.splitOn '\n'
  let rest := (pieces.getLast?.toList).filter (!·.isEmpty)
  ((pieces.dropLast.map dropReturn) ++ rest).map String.ofList

/-- The first line of a text. -/
def firstLine (text : String) : String := (lines text).headD ""

end Chip8.Text
