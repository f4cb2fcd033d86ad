/-
# Written patterns

A pattern as it is written, part by part, each with its place in the text. What a
part means depends on modes, which the pattern itself can turn on and off.
-/

import Chip8.Text.Pattern
import Chip8.Text.Pattern.Flaw

namespace Chip8.Text.Pattern

/-- What can be turned on and off. -/
inductive Flag where
  /-- Small and capital letters are equal. -/
  | caseless
  /-- The signs for the ends of a text stand for the ends of its lines too. -/
  | lineEnds
  /-- The dot stands for a newline too. -/
  | dotAll
  /-- Repetitions prefer few rounds. -/
  | frugal
  /-- Characters of all scripts are meant. -/
  | allScripts
  /-- A carriage return ends a line too. -/
  | returns
  /-- Blanks and comments in the pattern have no meaning. -/
  | verbose
  deriving DecidableEq, Repr

/-- The flag of a letter. -/
def Flag.ofChar? : Char → Option Flag
  | 'i' => some .caseless
  | 'm' => some .lineEnds
  | 's' => some .dotAll
  | 'U' => some .frugal
  | 'u' => some .allScripts
  | 'R' => some .returns
  | 'x' => some .verbose
  | _ => none

/-- What is turned on or off. -/
abbrev FlagChanges := List (Flag × Bool)

/-- What changes make of a flag, if they name it. -/
def FlagChanges.find? (changes : FlagChanges) (flag : Flag) : Option Bool :=
  (List.find? (·.1 == flag) changes).map (·.2)

/-- How a character of its own is written. -/
structure Literal where
  /-- Where it stands. -/
  span : Span
  /-- The character. -/
  char : Char
  /-- Whether it is written as a byte of two digits. -/
  isByte : Bool := false
  deriving DecidableEq, Repr

/-- The sets that have a letter. -/
inductive LetterClass where
  | digit | space | word
  deriving DecidableEq, Repr

/-- What is asked of a place, as it is written. -/
inductive Assertion where
  /-- The sign for the start. -/
  | start
  /-- The sign for the end. -/
  | stop
  /-- The start of the text. -/
  | textStart
  /-- The end of the text. -/
  | textEnd
  /-- The edge of a word. -/
  | edge (edge : WordEdge)
  deriving DecidableEq, Repr

/-- The operations on two sets. -/
inductive SetOperation where
  | intersection | difference | exclusive
  deriving DecidableEq, Repr

/-- A set of characters as it is written. -/
inductive SetExpression where
  /-- Nothing. -/
  | empty (span : Span)
  /-- A character. -/
  | literal (literal : Literal)
  /-- The characters between two. -/
  | range (span : Span) (first last : Literal)
  /-- A set by name. -/
  | named (span : Span) (set : CharSet) (negated : Bool)
  /-- A set by letter. -/
  | letter (span : Span) (kind : LetterClass) (negated : Bool)
  /-- The characters with a property. -/
  | property (span : Span) (name : String)
  /-- A set in brackets. -/
  | bracketed (span : Span) (negated : Bool) (body : SetExpression)
  /-- Several sets beside each other. -/
  | union (span : Span) (items : List SetExpression)
  /-- An operation on two sets. -/
  | combined (span : Span) (operation : SetOperation) (left right : SetExpression)

/-- Where a set stands. -/
def SetExpression.span : SetExpression → Span
  | .empty span | .range span _ _ | .named span _ _ | .letter span _ _ | .property span _
  | .bracketed span _ _ | .union span _ | .combined span _ _ _ => span
  | .literal written => written.span

/-- A pattern as it is written. -/
inductive Expression where
  /-- Nothing. -/
  | empty (span : Span)
  /-- What holds from here to the end of the group. -/
  | flags (span : Span) (changes : FlagChanges)
  /-- A character. -/
  | literal (literal : Literal)
  /-- The dot. -/
  | dot (span : Span)
  /-- What is asked of a place. -/
  | assertion (span : Span) (kind : Assertion)
  /-- A character of a set. -/
  | set (set : SetExpression)
  /-- A repetition, and whether a question mark follows it. -/
  | repetition (span : Span) (body : Expression) (least : Nat) (most : Option Nat)
      (marked : Bool)
  /-- A group, its number if it has one, and what holds inside it. -/
  | group (span : Span) (number : Option Nat) (changes : FlagChanges) (body : Expression)
  /-- Several patterns, of which one is meant. -/
  | choice (span : Span) (branches : List Expression)
  /-- Several patterns one after the other. -/
  | sequence (span : Span) (items : List Expression)

/-- Where a pattern stands. -/
def Expression.span : Expression → Span
  | .empty span | .flags span _ | .dot span | .assertion span _ | .repetition span _ _ _ _
  | .group span _ _ _ | .choice span _ | .sequence span _ => span
  | .literal written => written.span
  | .set written => written.span

/-! ## Nesting -/

/-- The first set that is nested too deep, if only so many levels are left. -/
def SetExpression.tooDeep? (levels : Nat) : SetExpression → Option Span
  | .bracketed span _ body =>
      match levels with
      | 0 => some span
      | levels + 1 => body.tooDeep? levels
  | .union span items =>
      match levels with
      | 0 => some span
      | levels + 1 => firstTooDeep? levels items
  | .combined span _ left right =>
      match levels with
      | 0 => some span
      | levels + 1 => (left.tooDeep? levels).or (right.tooDeep? levels)
  | _ => none
where
  /-- The first of several. -/
  firstTooDeep? (levels : Nat) : List SetExpression → Option Span
    | [] => none
    | item :: rest => (item.tooDeep? levels).or (firstTooDeep? levels rest)

/-- The first part that is nested too deep, if only so many levels are left. -/
def Expression.tooDeep? (levels : Nat) : Expression → Option Span
  | .set written => written.tooDeep? levels
  | .repetition span body _ _ _ | .group span _ _ body =>
      match levels with
      | 0 => some span
      | levels + 1 => body.tooDeep? levels
  | .choice span items | .sequence span items =>
      match levels with
      | 0 => some span
      | levels + 1 => firstTooDeep? levels items
  | _ => none
where
  /-- The first of several. -/
  firstTooDeep? (levels : Nat) : List Expression → Option Span
    | [] => none
    | item :: rest => (item.tooDeep? levels).or (firstTooDeep? levels rest)

end Chip8.Text.Pattern
