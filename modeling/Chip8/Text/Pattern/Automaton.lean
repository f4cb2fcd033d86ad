/-
# The automaton of a pattern

What the automata take that search for a pattern. One reads a text forward, and notes
where each group begins and ends; another one reads backward. Repetitions are written
out. A choice of rows of characters becomes a tree, in which equal beginnings are
shared. An automaton that does not have to begin at an end of the text gets states in
front that skip what is there.

A draft that has become too large grows no further, which bounds what is written out.
-/

import Chip8.Text.Pattern
import Chip8.Text.Pattern.Draft

namespace Chip8.Text.Pattern

/-- The most bytes that an automaton may take. -/
def byteLimit : Nat := 10 * 1024 * 1024

namespace Draft

/-- Whether a draft has become too large. -/
def isTooLarge (draft : Draft) : Bool := byteLimit < draft.bytes

/-- Add something to a draft a number of times, unless the draft becomes too large. -/
def replicate (add : Draft → Draft) : Nat → Draft → Draft
  | 0, draft => draft
  | count + 1, draft => if draft.isTooLarge then draft else replicate add count (add draft)

/-! ## Trees of rows -/

/-- The rows behind those that begin with a byte. -/
def behind (byte : UInt8) (rows : List (List UInt8)) : List (List UInt8) :=
  rows.filterMap fun row =>
    match row with
    | [] => none
    | first :: rest => if first == byte then some rest else none

/-- The runs of rows between those that end here. Rows that end before all others
count once. -/
def runs (rows : List (List UInt8)) : List (List (List UInt8)) :=
  match rows with
  | [] :: rest => ([] :: rest.dropWhile (·.isEmpty)).splitOn []
  | rows => rows.splitOn []

/-- The draft with the states of a tree of rows, of which at most so many bytes of each
are looked at. Rows in different runs share nothing. -/
def tree : Nat → List (List UInt8) → Draft → Draft
  | 0, _, draft => draft
  | depth + 1, rows, draft =>
      let runs := runs rows
      let draft := runs.foldl (fun draft run =>
        let bytes := (run.filterMap List.head?).eraseDups
        let draft := bytes.foldl (fun draft byte =>
          let rows := behind byte run
          if rows.all (·.isEmpty) then draft else tree depth rows draft) draft
        match bytes.length with
        | 0 => draft
        | 1 => draft.state
        | edges => draft.switch edges) draft
      draft.fork ((runs.filter (!·.isEmpty)).length + (runs.length - 1))

/-- The draft with the states for one of some rows of characters. -/
def choice (draft : Draft) (direction : Direction) (rows : List (List Char)) : Draft :=
  let encoded := rows.map (·.flatMap String.utf8EncodeChar)
  let read := match direction with
    | .forward => encoded
    | .backward => encoded.map List.reverse
  tree ((read.map List.length).foldl max 0 + 1) read draft.state

end Draft

/-- The rows of characters of a choice that has nothing else. -/
def rows? : Pattern → Option (List (List Char))
  | .exactly characters => some [characters]
  | .either (.exactly characters) rest => (characters :: ·) <$> rest.rows?
  | _ => none

/-- Where a pattern stands in a choice. -/
inductive Role where
  /-- Not in a choice, or first in it. -/
  | first
  /-- Second in a choice. -/
  | second
  /-- Behind the second branch. -/
  | later
  deriving DecidableEq, Repr

/-- The draft after a branch of a choice: the second one brings the state in front of
all branches, and the one behind them. -/
def Role.join (role : Role) (draft : Draft) : Draft :=
  match role with
  | .first => draft
  | .second => (draft.fork 2).state
  | .later => draft.link 1

namespace Draft

/-- The draft with a repetition of what can be added to it. Something that may have no
width is left by a state of its own. -/
def times (draft : Draft) (add : Draft → Draft) (hasWidth : Bool) (least : Nat)
    (most : Option Nat) : Draft :=
  match least, most with
  | 0, some 1 => (add (draft.fork 2)).state
  | 0, none =>
      if hasWidth then add (draft.fork 2) else (((add draft).fork 2).fork 2).state
  | least, none => (replicate add least draft).fork 2
  | least, some most =>
      let draft := if least == 0 then draft.state else replicate add least draft
      if most == least then draft
      else replicate (fun draft => add (draft.fork 2)) (most - least) draft.state

/-- The draft with the states of a pattern that has a role in a choice. -/
def grow (direction : Direction) : Pattern → Role → Draft → Draft
  | .either first rest, .first, draft =>
      match (Pattern.either first rest).rows? with
      | some rows => draft.choice direction rows
      | none => grow direction rest .second (grow direction first .first draft)
  | .either first rest, role, draft =>
      grow direction rest .later (role.join (grow direction first .first draft))
  | .empty, role, draft | .look _, role, draft => role.join draft.state
  | .exactly characters, role, draft =>
      role.join (draft.chain (characters.foldl (fun bytes c => bytes + c.utf8Size) 0))
  | .one members _, role, draft => role.join (draft.set direction members)
  | .group _ body, role, draft =>
      role.join (match direction with
        | .forward => (grow direction body .first draft.state).state
        | .backward => grow direction body .first draft)
  | .both first rest, role, draft =>
      role.join (match direction with
        | .forward => grow direction rest .first (grow direction first .first draft)
        | .backward => grow direction first .first (grow direction rest .first draft))
  | .times body least most _, role, draft =>
      role.join (draft.times (grow direction body .first)
        (body.leastWidth?.any (0 < ·)) least most)

end Draft

/-- Whether stretches that fit a pattern are at an end of the text only: the one where
an automaton begins. -/
def isAnchored (direction : Direction) : Pattern → Bool
  | .look .textStart => direction == .forward
  | .look .textEnd => direction == .backward
  | .group _ body => body.isAnchored direction
  | .times body least _ _ => 0 < least && body.isAnchored direction
  | .both first rest =>
      match direction with
      | .forward =>
          first.isAnchored direction || (first.isWidthless && rest.isAnchored direction)
      | .backward =>
          rest.isAnchored direction || (rest.isWidthless && first.isAnchored direction)
  | .either first rest => first.isAnchored direction && rest.isAnchored direction
  | _ => false

/-- The draft of the automaton of a pattern. The whole of what fits is a group too. -/
def draft (pattern : Pattern) (direction : Direction) : Draft :=
  let front : Draft :=
    if pattern.isAnchored direction then ({} : Draft).state
    else (({} : Draft).fork 2).state.switch 1
  (Draft.grow direction (.group 0 pattern) .first front).state

/-- Whether a pattern asks for edges of words of all scripts. Such a pattern can be
written but not searched for. -/
def usesAllScripts : Pattern → Bool
  | .look (.word _ allScripts) => allScripts
  | .both first second | .either first second => first.usesAllScripts || second.usesAllScripts
  | .group _ body | .times body _ _ _ => body.usesAllScripts
  | _ => false

end Chip8.Text.Pattern
