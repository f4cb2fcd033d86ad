/-
# Escapes

What a backslash makes of the characters behind it: a sign without its meaning, a
control character, a character by number, a set by letter or by property, or
something that is asked of a place.
-/

import Chip8.Text.Pattern.Reader

namespace Chip8.Text.Pattern

/-- The smallest part of a pattern, outside and inside of brackets. -/
inductive Piece where
  /-- A character. -/
  | literal (literal : Literal)
  /-- What is asked of a place. -/
  | assertion (span : Span) (kind : Assertion)
  /-- A set. -/
  | set (set : SetExpression)

namespace Piece

/-- Where a piece stands. -/
def span : Piece → Span
  | .literal written => written.span
  | .assertion span _ => span
  | .set written => written.span

/-- The piece as a pattern. -/
def toExpression : Piece → Expression
  | .literal written => .literal written
  | .assertion span kind => .assertion span kind
  | .set written => .set written

/-- The piece as a set. A place has no characters. -/
def toSet : Piece → Reader SetExpression
  | .literal written => return .literal written
  | .assertion span _ => Reader.fail span .classEscape
  | .set written => return written

/-- The piece as a bound of a range. -/
def toBound : Piece → Reader Literal
  | .literal written => return written
  | piece => Reader.fail piece.span .classRangeBound

end Piece

namespace Reader

/-- Whether a backslash takes its meaning from a character, if it has one. -/
def isEscapable (c : Char) : Bool :=
  c.toNat < 0x80 && !c.isAlphanum && c != '<' && c != '>'

/-- The control character of a letter. -/
def controlOf? : Char → Option Char
  | 'a' => some '\x07'
  | 'f' => some '\x0c'
  | 't' => some '\t'
  | 'n' => some '\n'
  | 'r' => some '\r'
  | 'v' => some '\x0b'
  | _ => none

/-- What a letter asks of a place. -/
def assertionOf? : Char → Option Assertion
  | 'A' => some .textStart
  | 'z' => some .textEnd
  | 'b' => some (.edge .any)
  | 'B' => some (.edge .none)
  | '<' => some (.edge .start)
  | '>' => some (.edge .stop)
  | _ => none

/-- The set of a letter, and whether its complement is meant. -/
def letterClassOf? : Char → Option (LetterClass × Bool)
  | 'd' => some (.digit, false)
  | 'D' => some (.digit, true)
  | 's' => some (.space, false)
  | 'S' => some (.space, true)
  | 'w' => some (.word, false)
  | 'W' => some (.word, true)
  | _ => none

/-- The edge of a word by name. -/
def edgeOf? (name : List Char) : Option WordEdge :=
  match String.ofList name with
  | "start" => some .start
  | "end" => some .stop
  | "start-half" => some .startHalf
  | "end-half" => some .stopHalf
  | _ => none

/-- Read the name in braces behind the letter for an edge of a word. Where no name
begins behind the brace, it is the brace of a repetition, and nothing is read. -/
def edgeName (start : Place) : Reader (Option WordEdge) := do
  let isNameChar (c : Char) : Bool := c.isAlpha || c == '-'
  let saved ← get
  if !(← advance) then fail (← since start) .edgeUnfinished
  let first ← here
  if !((← peek).any isNameChar) then
    set saved
    return none
  let name ← takeWhile isNameChar
  if (← peek) != some '}' then fail (← since saved.place) .edgeUnclosed
  let span ← since first
  take
  match edgeOf? name with
  | some edge => return some edge
  | none => fail span .edgeUnknown

/-- Read the property behind its letter: one character, or a name in braces. -/
def property (start : Place) : Reader Piece := do
  if !(← advance) then fail (Span.point (← here)) .escapeUnfinished
  match ← peek with
  | some '{' =>
      let _ ← advance
      let name ← takeWhile (· != '}')
      if ← atEnd then fail (Span.point (← here)) .escapeUnfinished
      take
      return .set (.property (← since start) (String.ofList name))
  | some '\\' => fail (← charSpan) .propertyInvalid
  | found =>
      let _ ← advance
      return .set (.property (← since start) (String.ofList found.toList))

/-- Read an escape. -/
def escape : Reader Piece := do
  let start ← here
  take
  match ← peek with
  | none => fail (← since start) .escapeUnfinished
  | some c =>
      if c.isDigit then fail ⟨start, (← charSpan).last⟩ .backreference
      if c == 'x' || c == 'u' || c == 'U' then return .literal (← hexLiteral start c)
      if c == 'p' || c == 'P' then return ← property start
      take
      let span ← since start
      if isEscapable c then return .literal { span, char := c }
      match controlOf? c, letterClassOf? c, assertionOf? c with
      | some char, _, _ => return .literal { span, char }
      | _, some (kind, negated), _ => return .set (.letter span kind negated)
      | _, _, some kind =>
          if c == 'b' && (← peek) == some '{' then
            match ← edgeName start with
            | some edge => return .assertion (← since start) (.edge edge)
            | none => return .assertion span kind
          else return .assertion span kind
      | _, _, _ => fail span .escapeUnknown

end Reader

end Chip8.Text.Pattern
