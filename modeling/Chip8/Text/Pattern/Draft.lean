/-
# The draft of an automaton

To search for a pattern, an automaton is drafted that reads a text byte by byte. This
is kept of the draft: how many states it has, and how many bytes the lists of edges
and links take that some states have. States are numbered as they come.

A set of characters becomes states that read the bytes of its characters. States that
would be equal are shared, as far as they are remembered. The memory for that has a
fixed number of slots. A state has one slot, which is taken from whatever was there
before, and so some equal states are there twice.
-/

import Std.Data.HashMap
import Chip8.Text.ByteRange
import Chip8.Text.CharSet

namespace Chip8.Text.Pattern

/-- In which direction an automaton reads a text. -/
inductive Direction where
  | forward | backward
  deriving DecidableEq, Repr

/-- What is kept of a draft. -/
structure Draft where
  /-- The number of states. -/
  states : Nat := 0
  /-- The bytes of all lists. -/
  listed : Nat := 0
  deriving DecidableEq, Repr

namespace Draft

/-- The bytes of a state. -/
def stateBytes : Nat := 32

/-- The bytes of an edge, by which a state reads a byte and goes on. -/
def edgeBytes : Nat := 8

/-- The bytes of a link, by which a state goes on without reading. -/
def linkBytes : Nat := 4

/-- The bytes of a draft. -/
def bytes (draft : Draft) : Nat := stateBytes * draft.states + draft.listed

/-- The draft with some more states without a list. -/
def chain (draft : Draft) (count : Nat) : Draft :=
  { draft with states := draft.states + count }

/-- The draft with one more state without a list. -/
def state (draft : Draft) : Draft := draft.chain 1

/-- The draft with some more links in the list of a state. -/
def link (draft : Draft) (count : Nat) : Draft :=
  { draft with listed := draft.listed + linkBytes * count }

/-- The draft with one more state that goes on in some places without reading. -/
def fork (draft : Draft) (links : Nat) : Draft := draft.state.link links

/-- The draft with one more state that reads a byte by some edges. -/
def switch (draft : Draft) (edges : Nat) : Draft :=
  { states := draft.states + 1, listed := draft.listed + edgeBytes * edges }

end Draft

/-! ## Shared states -/

/-- A draft, and the states that are remembered, by their slots. -/
structure Weaver where
  /-- The draft. -/
  draft : Draft
  /-- What a remembered state is made of, and its number. -/
  known : Std.HashMap Nat (List Nat × Nat) := {}

namespace Weaver

/-- The number of slots for states that read forward. -/
def forwardSlots : Nat := 10000

/-- The number of slots for states that read backward. -/
def backwardSlots : Nat := 1000

/-- The slot of what a state is made of. -/
def slot (slots : Nat) (parts : List Nat) : Nat :=
  let mix (value : UInt64) (part : Nat) : UInt64 := (value ^^^ part.toUInt64) * 1099511628211
  (parts.foldl mix 14695981039346656037).toNat % slots

/-- The number of the state that is made of some parts. If it is not remembered, it is
put into the draft. -/
def share (weaver : Weaver) (slots : Nat) (parts : List Nat) (add : Draft → Draft) :
    Nat × Weaver :=
  let place := slot slots parts
  let known := weaver.known[place]?.filter (·.1 == parts)
  match known with
  | some (_, number) => (number, weaver)
  | none =>
      let number := weaver.draft.states
      (number,
        { draft := add weaver.draft, known := weaver.known.insert place (parts, number) })

/-- Put a row of byte ranges in, each of which leads to the one before, and the first
to a state. The row is linked from the state in front of all rows. -/
def addBackward (weaver : Weaver) (target : Nat) (row : List ByteRange) : Weaver :=
  let (_, weaver) := row.foldl
    (fun (next, weaver) range =>
      weaver.share backwardSlots [next, range.first.toNat, range.last.toNat] Draft.state)
    (target, weaver)
  { weaver with draft := weaver.draft.link 1 }

/-- A state whose last edge leads to a state that is not finished. -/
structure OpenState where
  /-- The finished edges: the bounds of each, and the number of the state it leads to. -/
  edges : List Nat := []
  /-- The bytes of the last edge. -/
  last : Option ByteRange := none

/-- The edges of a state whose last edge leads to a state with a number. -/
def OpenState.close (state : OpenState) (next : Nat) : List Nat :=
  state.edges ++
    match state.last with
    | some range => [range.first.toNat, range.last.toNat, next]
    | none => []

/-- Finish a path of open states, of which the last leads to a state. Gives the number
of the first. -/
def finish (target : Nat) : List OpenState → Weaver → Nat × Weaver
  | [], weaver => (target, weaver)
  | top :: deeper, weaver =>
      let (next, weaver) := finish target deeper weaver
      let edges := top.close next
      weaver.share forwardSlots edges (·.switch (edges.length / 3))

/-- Put a row of byte ranges in, behind all rows before. The open path is left where
the row leaves it. -/
def addForward (target : Nat) :
    List OpenState → List ByteRange → Weaver → List OpenState × Weaver
  | path, [], weaver => (path, weaver)
  | [], row, weaver => (row.map fun range => { last := some range }, weaver)
  | top :: deeper, range :: row, weaver =>
      if top.last == some range then
        let (deeper, weaver) := addForward target deeper row weaver
        (top :: deeper, weaver)
      else
        let (next, weaver) := finish target deeper weaver
        let fresh := row.map fun range => { last := some range }
        ({ edges := top.close next, last := some range } :: fresh, weaver)

end Weaver

namespace Draft

/-- The draft with the states for one character of a set. Two states are enough for a
set of ASCII characters. -/
def set (draft : Draft) (direction : Direction) (set : CharSet) : Draft :=
  if set.isAscii then draft.state.switch set.ranges.length
  else
    let rows := set.ranges.flatMap fun (first, last) => ByteRange.rows first last
    match direction with
    | .forward =>
        let target := draft.states
        let weaver : Weaver := { draft := draft.state }
        let (path, weaver) := rows.foldl
          (fun (path, weaver) row => weaver.addForward target path row) ([{}], weaver)
        (weaver.finish target path).2.draft
    | .backward =>
        let target := draft.states + 1
        let weaver : Weaver := { draft := draft.state.state }
        (rows.foldl (fun weaver row => weaver.addBackward target row) weaver).draft

end Draft

end Chip8.Text.Pattern
