/-
# Flaws of a written pattern

What can be wrong with the text of a pattern, and where. The report of a flaw shows
the text, with marks under the part that is to blame; if the text has several
lines, they are numbered, and a part that goes beyond its line is told by numbers.
-/

import Chip8.Text.Blank

namespace Chip8.Text.Pattern

/-- A place in a text. Lines and columns are counted from one. -/
structure Place where
  /-- The line. -/
  line : Nat := 1
  /-- The column, in characters. -/
  column : Nat := 1
  deriving DecidableEq, Repr

namespace Place

/-- The place behind a character. -/
def next (place : Place) (c : Char) : Place :=
  if c == '\n' then ⟨place.line + 1, 1⟩ else ⟨place.line, place.column + 1⟩

/-- Whether a place is not behind another. -/
def isBefore (a b : Place) : Bool :=
  a.line < b.line || (a.line == b.line && a.column ≤ b.column)

end Place

/-- A part of a text. -/
structure Span where
  /-- Where it begins. -/
  first : Place
  /-- The place behind its end. -/
  last : Place
  deriving DecidableEq, Repr

namespace Span

/-- The part without a character at a place. -/
def point (place : Place) : Span := ⟨place, place⟩

/-- Whether a part stays on its line. -/
def isOneLine (span : Span) : Bool := span.first.line == span.last.line

/-- How many marks a part gets. -/
def width (span : Span) : Nat := max 1 (span.last.column - span.first.column)

end Span

/-- What can be wrong; the message says it of each. -/
inductive Fault where
  | classEscape
  | classRange
  | classRangeBound
  | classUnclosed
  | decimalInvalid
  | hexEmpty
  | hexInvalid
  | hexDigit
  | escapeUnfinished
  | escapeUnknown
  | flagDangling
  | flagRepeated
  | flagNegatedTwice
  | flagUnfinished
  | flagUnknown
  | nameRepeated
  | nameEmpty
  | nameInvalid
  | nameUnfinished
  | groupUnclosed
  | groupUnopened
  | nesting (limit : Nat)
  | countInvalid
  | countEmpty
  | countUnclosed
  | nothingToRepeat
  | edgeUnclosed
  | edgeUnknown
  | edgeUnfinished
  | propertyInvalid
  | backreference
  | lookAround
  | scriptsNotAllowed
  | notText
  | propertyUnknown
  | propertyValueUnknown
  | letterClassUnknown
  | caseUnknown
  deriving DecidableEq, Repr

/-- The wording of what is wrong. -/
def Fault.message : Fault → String
  | .classEscape => "invalid escape sequence found in character class"
  | .classRange => "invalid character class range, the start must be <= the end"
  | .classRangeBound => "invalid range boundary, must be a literal"
  | .classUnclosed => "unclosed character class"
  | .decimalInvalid => "decimal literal invalid"
  | .hexEmpty => "hexadecimal literal empty"
  | .hexInvalid => "hexadecimal literal is not a Unicode scalar value"
  | .hexDigit => "invalid hexadecimal digit"
  | .escapeUnfinished => "incomplete escape sequence, reached end of pattern prematurely"
  | .escapeUnknown => "unrecognized escape sequence"
  | .flagDangling => "dangling flag negation operator"
  | .flagRepeated => "duplicate flag"
  | .flagNegatedTwice => "flag negation operator repeated"
  | .flagUnfinished => "expected flag but got end of regex"
  | .flagUnknown => "unrecognized flag"
  | .nameRepeated => "duplicate capture group name"
  | .nameEmpty => "empty capture group name"
  | .nameInvalid => "invalid capture group character"
  | .nameUnfinished => "unclosed capture group name"
  | .groupUnclosed => "unclosed group"
  | .groupUnopened => "unopened group"
  | .nesting limit =>
      s!"exceed the maximum number of nested parentheses/brackets ({limit})"
  | .countInvalid => "invalid repetition count range, the start must be <= the end"
  | .countEmpty => "repetition quantifier expects a valid decimal"
  | .countUnclosed => "unclosed counted repetition"
  | .nothingToRepeat => "repetition operator missing expression"
  | .edgeUnclosed =>
      "special word boundary assertion is either unclosed or contains an invalid character"
  | .edgeUnknown =>
      "unrecognized special word boundary assertion, valid choices are: " ++
        "start, end, start-half or end-half"
  | .edgeUnfinished =>
      "found either the beginning of a special word boundary or a bounded repetition " ++
        "on a \\b with an opening brace, but no closing brace"
  | .propertyInvalid => "invalid Unicode character class"
  | .backreference => "backreferences are not supported"
  | .lookAround => "look-around, including look-ahead and look-behind, is not supported"
  | .scriptsNotAllowed => "Unicode not allowed here"
  | .notText => "pattern can match invalid UTF-8"
  | .propertyUnknown => "Unicode property not found"
  | .propertyValueUnknown => "Unicode property value not found"
  | .letterClassUnknown =>
      "Unicode-aware Perl class not found (make sure the unicode-perl feature is enabled)"
  | .caseUnknown =>
      "Unicode-aware case insensitivity matching is not available " ++
        "(make sure the unicode-case feature is enabled)"

/-- What is wrong, and where. -/
structure Flaw where
  /-- What is wrong. -/
  fault : Fault
  /-- The part that is to blame. -/
  span : Span
  /-- Another part without which there would be no fault. -/
  other : Option Span := none
  deriving DecidableEq, Repr

namespace Flaw

/-- The parts that are involved, in order. -/
def spans (flaw : Flaw) : List Span :=
  match flaw.other with
  | none => [flaw.span]
  | some other =>
      if flaw.span.first.isBefore other.first then [flaw.span, other] else [other, flaw.span]

/-- So many of a character. -/
def row (count : Nat) (c : Char) : String := String.ofList (List.replicate count c)

/-- The marks under a line, from some column on. -/
def marks : Nat → List Span → String
  | _, [] => ""
  | column, span :: rest =>
      let gap := span.first.column - column
      row gap ' ' ++ row span.width '^' ++ marks (column + gap + span.width) rest

/-- The lines of a text, each with its marks below. -/
def notated (flaw : Flaw) (text : String) : List String :=
  let textLines := lines text
  let count := textLines.length + (if text.endsWith "\n" then 1 else 0)
  let numberWidth := (toString count).length
  let single := count ≤ 1
  (textLines.zipIdx 1).flatMap fun (line, number) =>
    let label := toString number
    let margin := if single then "    " else row (numberWidth - label.length) ' ' ++ label ++ ": "
    let marked := flaw.spans.filter fun span => span.isOneLine && span.first.line == number
    (margin ++ line) :: if marked.isEmpty then [] else [row margin.length ' ' ++ marks 1 marked]

/-- Where the parts are that go beyond their lines. -/
def beyond (flaw : Flaw) : List String :=
  (flaw.spans.filter (!·.isOneLine)).map fun span =>
    s!"on line {span.first.line} (column {span.first.column}) through line " ++
      s!"{span.last.line} (column {span.last.column - 1})"

/-- The report of a flaw of a text. -/
def report (flaw : Flaw) (text : String) : String :=
  let divider := row 79 '~'
  let body :=
    if text.contains '\n' then
      divider :: notated flaw text ++ divider :: beyond flaw
    else notated flaw text
  "\n".intercalate ("regex parse error:" :: body ++ [s!"error: {flaw.fault.message}"])

end Flaw

end Chip8.Text.Pattern
