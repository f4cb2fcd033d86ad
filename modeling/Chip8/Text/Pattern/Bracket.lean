/-
# Sets in brackets

A set in brackets has characters, ranges, sets by name, letter or property, and
further brackets beside each other. Between two such rows there may stand an
operation on sets; several operations apply from left to right.

Open brackets, and operations that wait for their right side, are kept on a stack.
-/

import Chip8.Text.Pattern.Escape

namespace Chip8.Text.Pattern

/-- A row of sets beside each other, the last one first, and where it began. -/
structure SetRow where
  /-- Where the row began. -/
  start : Place
  /-- The sets. -/
  items : List SetExpression := []

namespace SetRow

/-- The row with a set behind it. -/
def push (row : SetRow) (item : SetExpression) : SetRow :=
  { row with items := item :: row.items }

/-- The row as one set. -/
def toSet (row : SetRow) : SetExpression :=
  match row.items.reverse, row.items with
  | [], _ | _, [] => .empty (Span.point row.start)
  | [item], _ => item
  | first :: rest, last :: _ => .union ⟨first.span.first, last.span.last⟩ (first :: rest)

end SetRow

/-- What waits to be finished. -/
inductive Waiting where
  /-- A bracket, and the row that it stands in. -/
  | bracket (span : Span) (negated : Bool) (outer : SetRow)
  /-- An operation, and its left side. -/
  | operation (operation : SetOperation) (left : SetExpression)

/-- Finish the operation that waits for a right side, if there is one. -/
def Waiting.combine (stack : List Waiting) (right : SetExpression) :
    List Waiting × SetExpression :=
  match stack with
  | .operation sign left :: rest =>
      (rest, .combined ⟨left.span.first, right.span.last⟩ sign left right)
  | _ => (stack, right)

/-- The sets that have a name. They have ASCII characters only. -/
def namedSets : List (String × CharSet) := [
  ("alnum", .ofRanges [('0', '9'), ('A', 'Z'), ('a', 'z')]),
  ("alpha", .ofRanges [('A', 'Z'), ('a', 'z')]),
  ("ascii", .ofRanges [('\x00', '\x7f')]),
  ("blank", .ofRanges [('\t', '\t'), (' ', ' ')]),
  ("cntrl", .ofRanges [('\x00', '\x1f'), ('\x7f', '\x7f')]),
  ("digit", .ofRanges [('0', '9')]),
  ("graph", .ofRanges [('!', '~')]),
  ("lower", .ofRanges [('a', 'z')]),
  ("print", .ofRanges [(' ', '~')]),
  ("punct", .ofRanges [('!', '/'), (':', '@'), ('[', '\x60'), ('\x7b', '~')]),
  ("space", .ofRanges [('\t', '\r'), (' ', ' ')]),
  ("upper", .ofRanges [('A', 'Z')]),
  ("word", .ofRanges [('0', '9'), ('A', 'Z'), ('_', '_'), ('a', 'z')]),
  ("xdigit", .ofRanges [('0', '9'), ('A', 'F'), ('a', 'f')])]

namespace Reader

/-- The fault of a set whose innermost open bracket is never closed. -/
def unclosed {α : Type} : List Waiting → Reader α
  | .bracket span _ _ :: _ => fail span .classUnclosed
  | .operation _ _ :: rest => unclosed rest
  | [] => do fail (Span.point (← here)) .classUnclosed

/-- Read a set by name, with its bracket and colons. If there is none, nothing is
read. -/
def namedSet : Reader (Option SetExpression) := do
  let saved ← get
  let negated ← takeIf "[:^"
  if !negated then
    if !(← takeIf "[:") then return none
  let name := (← get).rest.takeWhile (· != ':')
  takeMany name.length
  let found := namedSets.find? (·.1.toList == name)
  match found, ← takeIf ":]" with
  | some (_, charSet), true => return some (.named (← since saved.place) charSet negated)
  | _, _ =>
      set saved
      return none

/-- Read hyphens that stand for themselves, at most so many. -/
def hyphens (start : Place) : Nat → SetRow → Reader SetRow
  | 0, row => return row
  | count + 1, row => do
      if (← peek) != some '-' then return row
      let row := row.push (.literal { span := ← charSpan, char := '-' })
      if !(← advance) then fail (Span.point start) .classUnclosed
      hyphens start count row

/-- Read an opening bracket: the sign for a complement, and hyphens or a closing
bracket that stand for themselves since they are the first. -/
def openBracket (outer : SetRow) : Reader (Waiting × SetRow) := do
  let start ← here
  if !(← advance) then fail (← since start) .classUnclosed
  let negated := (← peek) == some '^'
  if negated then
    if !(← advance) then fail (← since start) .classUnclosed
  let mut row ← hyphens start (← get).rest.length { start := ← here }
  if row.items.isEmpty && (← peek) == some ']' then
    row := row.push (.literal { span := ← charSpan, char := ']' })
    if !(← advance) then fail (← since start) .classUnclosed
  return (.bracket (← since start) negated outer, row)

/-- Read a character or an escape inside of brackets. -/
def setPiece : Reader Piece := do
  match ← peek with
  | some '\\' => escape
  | some char =>
      let span ← charSpan
      take
      return .literal { span, char }
  | none => fail (Span.point (← here)) .classUnclosed

/-- Read a character, an escape or a range. A hyphen in front of the closing bracket
or of another hyphen makes no range. -/
def setItem (stack : List Waiting) : Reader SetExpression := do
  let first ← setPiece
  skip
  if ← atEnd then unclosed stack
  let behind ← peekBehind
  if (← peek) != some '-' || behind == some ']' || behind == some '-' then
    return ← first.toSet
  if !(← advance) then unclosed stack
  let last ← setPiece
  let span : Span := ⟨first.span.first, last.span.last⟩
  let first ← first.toBound
  let last ← last.toBound
  if last.char < first.char then fail span .classRange
  return .range span first last

/-- The operation that comes next, if there is one. Its sign is taken. -/
def setOperation : Reader (Option SetOperation) := do
  if ← takeIf "&&" then return some .intersection
  if ← takeIf "--" then return some .difference
  if ← takeIf "~~" then return some .exclusive
  return none

/-- Read the rest of a set in brackets, in at most so many rounds. -/
def setLoop : Nat → List Waiting → SetRow → Reader SetExpression
  | 0, stack, _ => unclosed stack
  | rounds + 1, stack, row => do
      skip
      match ← peek with
      | none => unclosed stack
      | some '[' =>
          match ← namedSet with
          | some item => setLoop rounds stack (row.push item)
          | none =>
              let (waiting, inner) ← openBracket row
              setLoop rounds (waiting :: stack) inner
      | some ']' =>
          match Waiting.combine stack row.toSet with
          | (.bracket span negated outer :: rest, body) =>
              take
              let item := .bracketed (← since span.first) negated body
              if rest.isEmpty then return item
              else setLoop rounds rest (outer.push item)
          | (rest, _) => unclosed rest
      | some _ =>
          match ← setOperation with
          | some operation =>
              let (stack, left) := Waiting.combine stack row.toSet
              setLoop rounds (.operation operation left :: stack) { start := ← here }
          | none => setLoop rounds stack (row.push (← setItem stack))

/-- Read a set in brackets. -/
def bracket : Reader SetExpression := do
  let (waiting, row) ← openBracket { start := ← here }
  setLoop (← get).rest.length [waiting] row

end Reader

end Chip8.Text.Pattern
