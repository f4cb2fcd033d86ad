/-
# Searching for a pattern

Whether a pattern occurs in a text is decided with sets of places. A place is in
front of a character or at the end of the text. A pattern takes a set of places to
all places where a stretch that fits can end if it begins in the set; it occurs in a
text if something is left of the set of all places. Since every end is kept, no
choice is ever taken back.

Which of several stretches is preferred, and what a group holds, is not asked for
here.
-/

import Chip8.Text.Pattern

namespace Chip8.Text

/-- Whether a character belongs to a word of the Latin script. -/
def isWordChar (c : Char) : Bool := c.isAlphanum || c == '_'

namespace Look

/-- Whether a place between two characters has what is asked for. There may be none
in front or behind. Words of other scripts are not told apart from blanks. -/
def holds (before behind : Option Char) : Look → Bool
  | .textStart => before.isNone
  | .textEnd => behind.isNone
  | .lineStart returns =>
      before.isNone || before == some '\n' ||
        (returns && before == some '\r' && behind != some '\n')
  | .lineEnd false => behind.isNone || behind == some '\n'
  | .lineEnd true =>
      behind.isNone || behind == some '\r' || (behind == some '\n' && before != some '\r')
  | .word edge _ =>
      let front := before.any isWordChar
      let back := behind.any isWordChar
      match edge with
      | .any => front != back
      | .none => front == back
      | .start => !front && back
      | .stop => front && !back
      | .startHalf => !front
      | .stopHalf => !back

end Look

namespace Pattern

/-- A set of places of a text: whether each of them belongs to it, in order. -/
abbrev Places := List Bool

/-- The characters around each place of a text. -/
def edges (text : List Char) : List (Option Char × Option Char) :=
  List.zip (none :: text.map some) (text.map some ++ [none])

/-- The places behind a character of a kind that stands at a place of a set. -/
def step (text : List Char) (kind : Char → Bool) (places : Places) : Places :=
  false :: List.zipWith (fun c here => here && kind c) text places

/-- Go on from a set for a number of times. -/
def follow (next : Places → Places) : Nat → Places → Places
  | 0, places => places
  | count + 1, places =>
      if places.any id then follow next count (next places) else places

/-- Go on from a set for at most a number of times, and keep what was there. -/
def gather (next : Places → Places) : Nat → Places → Places
  | 0, places => places
  | count + 1, places =>
      let more := List.zipWith or places (next places)
      if more == places then places else gather next count more

/-- The places where a stretch can end that begins in a set. More rounds than there
are places lead nowhere new. -/
def reach (text : List Char) : Pattern → Places → Places
  | .empty, places => places
  | .exactly characters, places =>
      characters.foldl (fun places c => step text (· == c) places) places
  | .one set _, places => step text set.has places
  | .look asked, places =>
      List.zipWith (fun edge here => here && asked.holds edge.1 edge.2) (edges text) places
  | .group _ body, places => reach text body places
  | .both first second, places => reach text second (reach text first places)
  | .either first second, places =>
      List.zipWith or (reach text first places) (reach text second places)
  | .times body least most _, places =>
      let rounds := text.length + 1
      let more := match most with
        | none => rounds
        | some most => min rounds (most - least)
      gather (reach text body) more (follow (reach text body) (min rounds least) places)

/-- Whether a stretch of a text fits a pattern. -/
def occursIn (pattern : Pattern) (text : String) : Bool :=
  let characters := text.toList
  (reach characters pattern (List.replicate (characters.length + 1) true)).any id

end Pattern

end Chip8.Text
