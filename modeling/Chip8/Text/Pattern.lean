/-
# Patterns

A pattern is a regular expression: it says which stretches of a text fit it. Patterns
are put together by functions that bring them into a simple form. A sequence has no
sequences in it, no empty patterns, and no two rows of characters beside each other. A
choice has no choices in it; a choice of single characters or of sets is one set, and
what all branches have in front is taken out of the choice. What is repeated once is
itself.
-/

import Chip8.Text.CharSet

namespace Chip8.Text

/-- What can be asked of the edge of a word. -/
inductive WordEdge where
  /-- A word begins or ends here. -/
  | any
  /-- No word begins or ends here. -/
  | none
  /-- A word begins here. -/
  | start
  /-- A word ends here. -/
  | stop
  /-- There is no word in front. -/
  | startHalf
  /-- There is no word behind. -/
  | stopHalf
  deriving DecidableEq, Repr

/-- What can be asked of a place. -/
inductive Look where
  /-- The text begins here. -/
  | textStart
  /-- The text ends here. -/
  | textEnd
  /-- A line begins here, where a carriage return may end lines too. -/
  | lineStart (returns : Bool)
  /-- A line ends here, where a carriage return may end lines too. -/
  | lineEnd (returns : Bool)
  /-- The place is at the edge of a word, where the words may be of all scripts. -/
  | word (edge : WordEdge) (allScripts : Bool)
  deriving DecidableEq, Repr

/-- A pattern. -/
inductive Pattern where
  /-- The stretch without a character. -/
  | empty
  /-- These characters one after the other. -/
  | exactly (characters : List Char)
  /-- One character of a set, which may be meant to have ASCII characters only. -/
  | one (set : CharSet) (onlyAscii : Bool)
  /-- The stretch without a character, at certain places. -/
  | look (look : Look)
  /-- A group with its number. -/
  | group (number : Nat) (body : Pattern)
  /-- A stretch of the first pattern and one of the second. -/
  | both (first second : Pattern)
  /-- A stretch of one of two patterns. -/
  | either (first second : Pattern)
  /-- As many stretches of a pattern as allowed; there may be no upper bound. Few may be
  preferred. -/
  | times (body : Pattern) (least : Nat) (most : Option Nat) (frugal : Bool)
  deriving DecidableEq, Repr

namespace Pattern

/-! ## Widths -/

/-- Whether only stretches without a character fit. -/
def isWidthless : Pattern → Bool
  | .empty | .look _ => true
  | .exactly _ | .one _ _ => false
  | .both first second | .either first second => first.isWidthless && second.isWidthless
  | .group _ body | .times body _ _ _ => body.isWidthless

/-- The fewest characters of a stretch that fits. None is known if a set without
characters is in the way. -/
def leastWidth? : Pattern → Option Nat
  | .empty | .look _ => some 0
  | .exactly characters => some characters.length
  | .one set _ => if set.isEmpty then none else some 1
  | .group _ body => body.leastWidth?
  | .both first second => do return (← first.leastWidth?) + (← second.leastWidth?)
  | .either first second => do return min (← first.leastWidth?) (← second.leastWidth?)
  | .times body least _ _ => body.leastWidth?.map (least * ·)

/-! ## Sets -/

/-- One character of a set. -/
def ofSet (set : CharSet) (onlyAscii : Bool) : Pattern :=
  match set.single? with
  | some c => .exactly [c]
  | none => .one set (onlyAscii || set.isEmpty)

/-! ## Sequences -/

/-- The items of a sequence. -/
def items : Pattern → List Pattern
  | .both first rest => first :: rest.items
  | item => [item]

/-- A sequence with an item in front. -/
def prepend : Pattern → Pattern → Pattern
  | .empty, rest => rest
  | .exactly a, .exactly b => .exactly (a ++ b)
  | .exactly a, .both (.exactly b) rest => .both (.exactly (a ++ b)) rest
  | item, .empty => item
  | item, rest => .both item rest

/-- A sequence with another one in front. -/
def append : Pattern → Pattern → Pattern
  | .both first rest, others => first.prepend (rest.append others)
  | item, others => item.prepend others

/-- The sequence of some patterns. -/
def sequence (items : List Pattern) : Pattern := items.foldr append .empty

/-! ## Repetitions -/

/-- A pattern some number of times. Something without a width makes no difference
after the first time. -/
def repeated (body : Pattern) (least : Nat) (most : Option Nat) (frugal : Bool) : Pattern :=
  let (least, most) :=
    if body.isWidthless then (min least 1, some ((most.map (min 1)).getD 1)) else (least, most)
  if most == some 0 then .empty
  else if least == 1 && most == some 1 then body
  else .times body least most frugal

/-! ## Choices -/

/-- The branches of a choice. -/
def branches : Pattern → List Pattern
  | .either first rest => first :: rest.branches
  | branch => [branch]

/-- The choice of some branches, as they are. -/
def ofBranches : List Pattern → Pattern
  | [] => ofSet .empty true
  | [branch] => branch
  | branch :: rest => .either branch (ofBranches rest)

/-- The character of a pattern that is only this character. -/
def char? : Pattern → Option Char
  | .exactly [c] => some c
  | _ => none

/-- The set of a pattern that is only this set. -/
def set? : Pattern → Option CharSet
  | .one set _ => some set
  | _ => none

/-- The items of a sequence of several. -/
def items? : Pattern → Option (List Pattern)
  | .both first rest => some (first :: rest.items)
  | _ => none

/-- The set of a choice of characters or of sets. -/
def mergedSet? (branches : List Pattern) : Option CharSet :=
  match branches.mapM char?, branches.mapM set? with
  | some chars, _ => some (.ofChars chars)
  | none, some sets => some (sets.foldl .union .empty)
  | none, none => none

/-- What is in front of two sequences. -/
def commonFront (a b : List Pattern) : List Pattern :=
  ((a.zip b).takeWhile fun (x, y) => x == y).map (·.1)

/-- What is in front of all of some sequences of several items. -/
def front (branches : List Pattern) : List Pattern :=
  match branches.mapM items? with
  | some (first :: rest) => rest.foldl commonFront first
  | _ => []

/-- The choice of some patterns, without a look at what they have in front. -/
def anyOf (patterns : List Pattern) : Pattern :=
  match patterns.flatMap branches with
  | [branch] => branch
  | several =>
      match mergedSet? several with
      | some set => ofSet set false
      | none => ofBranches several

/-- The choice of some patterns. -/
def choice (patterns : List Pattern) : Pattern :=
  let several := patterns.flatMap branches
  let shared := if several.length < 2 then [] else front several
  if shared.isEmpty then anyOf several
  else
    let ends := several.map fun branch => sequence (branch.items.drop shared.length)
    sequence (shared ++ [anyOf ends])

end Pattern

end Chip8.Text
