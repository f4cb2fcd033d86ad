/-
# Reading a pattern

A pattern is read from left to right, with the text that is still to come, the
place that has been reached, and whether blanks have a meaning. A group or a set
that is open waits on a stack until it is closed, so that each round of the two
loops takes at least one character; the number of characters bounds both. The
first flaw ends the reading.
-/

import Chip8.Text.Letter
import Chip8.Text.Pattern.Expression

namespace Chip8.Text.Pattern

/-- How far reading has come. -/
structure Reading where
  /-- What is still to come. -/
  rest : List Char
  /-- The place of the next character. -/
  place : Place := {}
  /-- Whether blanks and comments have no meaning. -/
  verbose : Bool := false
  /-- The names of groups so far, and where they stand. -/
  names : List (List Char × Span) := []
  /-- How many groups have a number so far. -/
  groups : Nat := 0

/-- A step of the reading: it goes on, or finds a flaw. -/
abbrev Reader := StateT Reading (Except Flaw)

namespace Reader

/-! ## Characters -/

/-- End the reading with a fault. -/
def fail {α : Type} (span : Span) (fault : Fault) : Reader α := throw { fault, span }

/-- The place of the next character. -/
def here : Reader Place := return (← get).place

/-- The next character, if there is one. -/
def peek : Reader (Option Char) := return (← get).rest.head?

/-- Whether the end has been reached. -/
def atEnd : Reader Bool := return (← get).rest.isEmpty

/-- Whether the next characters are those of a word. -/
def sees (word : String) : Reader Bool := return word.toList.isPrefixOf (← get).rest

/-- The part from a place to here. -/
def since (first : Place) : Reader Span := return ⟨first, ← here⟩

/-- The part with the next character only. -/
def charSpan : Reader Span := do
  let reading ← get
  match reading.rest with
  | [] => return Span.point reading.place
  | c :: _ => return ⟨reading.place, reading.place.next c⟩

/-- Take the next character. -/
def take : Reader Unit := modify fun reading =>
  match reading.rest with
  | [] => reading
  | c :: rest => { reading with rest, place := reading.place.next c }

/-- Take some characters. -/
def takeMany : Nat → Reader Unit
  | 0 => return
  | count + 1 => do
      take
      takeMany count

/-- Take a word if it comes next. -/
def takeIf (word : String) : Reader Bool := do
  if ← sees word then
    takeMany word.length
    return true
  else return false

/-- How many of some characters are blanks and comments in front. A comment begins
with a hash and ends with its line. -/
def blankCount (inComment : Bool) : List Char → Nat
  | [] => 0
  | c :: rest =>
      if inComment then blankCount (c != '\n') rest + 1
      else if isBlank c then blankCount false rest + 1
      else if c == '#' then blankCount true rest + 1
      else 0

/-- Take blanks and comments if they have no meaning. -/
def skip : Reader Unit := do
  let reading ← get
  if reading.verbose then takeMany (blankCount false reading.rest)

/-- Take the next character and what has no meaning behind it. Is something left? -/
def advance : Reader Bool := do
  take
  skip
  return !(← atEnd)

/-- The character behind the next one. Blanks and the sign of a comment may have no
meaning there. -/
def peekBehind : Reader (Option Char) := do
  let reading ← get
  let behind := reading.rest.tail
  if reading.verbose then
    let found := behind.dropWhile isBlank
    let found := if found.head? == some '#' then found.tail.dropWhile isBlank else found
    return if found.isEmpty then behind.head? else found.head?
  else return behind.head?

/-- Take characters of some kind, and what has no meaning between them. -/
def takeWhile (kind : Char → Bool) : Reader (List Char) := do
  go (← get).rest.length
where
  /-- Take at most so many. -/
  go : Nat → Reader (List Char)
    | 0 => return []
    | count + 1 => do
        match ← peek with
        | none => return []
        | some c =>
            if kind c then
              let _ ← advance
              return c :: (← go count)
            else return []

/-! ## Numbers -/

/-- The value of a digit, also of one above nine. -/
def digitValue (c : Char) : Nat :=
  if c.isDigit then c.toNat - '0'.toNat
  else c.toLower.toNat - 'a'.toNat + 10

/-- Whether a character is a digit in base sixteen. -/
def isHexDigit (c : Char) : Bool :=
  c.isDigit || ('a' ≤ c && c ≤ 'f') || ('A' ≤ c && c ≤ 'F')

/-- The number that digits stand for. -/
def numberOf (base : Nat) (digits : List Char) : Nat :=
  digits.foldl (fun value c => value * base + digitValue c) 0

/-- Read a decimal number with blanks around it. Gives the flaw if there is none or
it is too large; the reading goes on all the same. -/
def decimal : Reader (Except Flaw Nat) := do
  takeMany ((← get).rest.takeWhile isBlank).length
  let first ← here
  let digits ← takeWhile Char.isDigit
  let span ← since first
  let _ ← takeWhile isBlank
  if digits.isEmpty then return .error { fault := .countEmpty, span }
  else if numberOf 10 digits < 0x100000000 then return .ok (numberOf 10 digits)
  else return .error { fault := .decimalInvalid, span }

/-- The character of a number, if there is one. -/
def charOf? (number : Nat) : Option Char :=
  if number.isValidChar then some (Char.ofNat number) else none

/-- Read a number of so many digits in base sixteen. -/
def hexDigits : Nat → Reader (List Char)
  | 0 => return []
  | count + 1 => do
      match ← peek with
      | none => fail (Span.point (← here)) .escapeUnfinished
      | some c =>
          if isHexDigit c then
            let _ ← advance
            return c :: (← hexDigits count)
          else fail (← charSpan) .hexDigit

/-- Read what follows the letter of an escape for a number. The letter says how many
digits there are without braces. -/
def hexLiteral (start : Place) (letter : Char) : Reader Literal := do
  if !(← advance) then fail (Span.point (← here)) .escapeUnfinished
  let brace ← here
  if (← peek) == some '{' then
    let _ ← advance
    let digits ← takeWhile isHexDigit
    match ← peek with
    | none => fail (← since brace) .escapeUnfinished
    | some '}' =>
        let inside ← since (brace.next '{')
        let _ ← advance
        if digits.isEmpty then fail (← since brace) .hexEmpty
        match charOf? (numberOf 16 digits) with
        | some char => return { span := ← since start, char }
        | none => fail inside .hexInvalid
    | some _ => fail (← charSpan) .hexDigit
  else
    let count := if letter == 'x' then 2 else if letter == 'u' then 4 else 8
    let digits ← hexDigits count
    match charOf? (numberOf 16 digits) with
    | some char => return { span := ← since start, char, isByte := letter == 'x' }
    | none => fail (← since brace) .hexInvalid

end Reader

end Chip8.Text.Pattern
