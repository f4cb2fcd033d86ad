/-
# Running without a window

A display that only exists in memory: it paints on a screen, reads keys from a
keypad, and takes the batches of host keys from a queue, one for each poll. It
counts the calls that it gets. Beside it stand a source that hands out given
bytes again and again, and a buzzer that writes down what it is asked for.
-/

import Chip8.Peripheral
import Chip8.Screen

namespace Chip8

/-- A display without a window. -/
structure HeadlessDisplay where
  /-- What a window would show. -/
  screen : Screen := .blank
  /-- The keys. -/
  keypad : Keypad := .allUp
  /-- Reports of the host that have not been polled, the oldest first. -/
  queue : List KeyBatch := []
  /-- Whether the user wants to stop. -/
  closed : Bool := false
  /-- How often the screen was cleared. -/
  clears : Nat := 0
  /-- How many sprites were drawn. -/
  draws : Nat := 0
  /-- How many frames were shown. -/
  frames : Nat := 0
  /-- How often the keys were polled. -/
  polls : Nat := 0

namespace HeadlessDisplay

/-- Take in the oldest report that waits, if there is one. -/
def poll (display : HeadlessDisplay) : HeadlessDisplay :=
  match display.queue with
  | [] => { display with polls := display.polls + 1 }
  | batch :: queue =>
      { display with polls := display.polls + 1, queue, keypad := display.keypad.update batch }

instance : Display HeadlessDisplay where
  clearScreen display := { display with screen := .blank, clears := display.clears + 1 }
  drawSprite display sprite x y := do
    let (screen, collided) ← display.screen.paint sprite x y
    return ({ display with screen, draws := display.draws + 1 }, collided)
  isKeyPressed display key := display.keypad.isPressed key
  shouldTerminate display := display.closed
  presentFrame display := ({ display with frames := display.frames + 1 }, [])
  pollInput := poll

end HeadlessDisplay

/-- A random source that repeats a first byte and those that follow it. -/
structure ByteCycle where
  /-- The byte that every round starts with. -/
  first : UInt8
  /-- The other bytes of a round. -/
  rest : List UInt8
  /-- The bytes of this round that have not been handed out. -/
  remaining : List UInt8

namespace ByteCycle

/-- A source at the start of its first round. -/
def ofBytes (first : UInt8) (rest : List UInt8) : ByteCycle :=
  { first, rest, remaining := first :: rest }

instance : RandomSource ByteCycle where
  nextByte source :=
    match source.remaining with
    | byte :: remaining => (byte, { source with remaining })
    | [] => (source.first, { source with remaining := source.rest })

end ByteCycle

/-- A buzzer that writes down what it is asked for, in order. -/
structure BuzzerTape where
  /-- The requests. -/
  requests : Array Bool := #[]
  deriving DecidableEq, Repr

instance : Buzzer BuzzerTape where
  setActive tape active := (⟨tape.requests.push active⟩, [])

end Chip8
