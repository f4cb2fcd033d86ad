/-
# A scripted host

A window and clocks that follow a script: batches of key events that wait to be
pumped, frames that the host will refuse, and what happens at each turn of the
outer loop. The clock stands still unless the script moves it. What the window
was asked for is written down.

The outer loop takes one turn of the script each time it reads its clock, the
reading before the loop apart. When no turn is left, the next reading closes the
window.
-/

import Chip8.Host

namespace Chip8

/-- Keys that go down and keys that come up. -/
structure KeyEvents where
  /-- Keys that go down. -/
  down : List HostKey
  /-- Keys that come up, also of those that go down in the same batch. -/
  up : List HostKey
  deriving DecidableEq, Repr

/-- Something that a scripted window was asked for. -/
inductive WindowEvent where
  /-- To take in events. -/
  | pump
  /-- To show a frame, which it refused. -/
  | failed
  /-- To show the frame that it shows already. -/
  | sameFrame
  /-- To show another frame. -/
  | frame (pixels : PixelBuffer)
  deriving DecidableEq, Repr

/-- What happens at one turn of the outer loop. -/
structure Turn where
  /-- The time that goes by, in nanoseconds. -/
  nanoseconds : Nat
  /-- Key events that arrive. -/
  keys : Option KeyEvents := none
  /-- Whether the window closes. -/
  close : Bool := false
  /-- How many more frames the host will refuse. -/
  refused : Nat := 0
  deriving DecidableEq, Repr

/-- A host that follows a script. -/
structure ScriptedHost where
  /-- The window that was opened. -/
  window : WindowRequest
  /-- What happens at coming turns of the outer loop. -/
  turns : List Turn := []
  /-- Whether the outer loop has read its clock. -/
  loopStarted : Bool := false
  /-- The time, in nanoseconds. -/
  clock : Nat := 0
  /-- Key events that wait to be pumped, the oldest first. -/
  waiting : List KeyEvents := []
  /-- Keys that are held. -/
  held : List HostKey := []
  /-- Keys that went down at the latest pump. -/
  pressed : List HostKey := []
  /-- Keys that came up at the latest pump. -/
  released : List HostKey := []
  /-- Whether the window is still there. -/
  isOpen : Bool := true
  /-- How many frames the host will refuse. -/
  refused : Nat := 0
  /-- The frame that the window shows. -/
  shown : Option PixelBuffer := none
  /-- What the window was asked for. -/
  events : Array WindowEvent := #[]

namespace ScriptedHost

/-- Write down what the window was asked for. -/
def note (host : ScriptedHost) (event : WindowEvent) : ScriptedHost :=
  { host with events := host.events.push event }

/-- The keys that are held after a batch of events. -/
def heldAfter (held : List HostKey) (events : KeyEvents) : List HostKey :=
  ((held ++ events.down).filter (· ∉ events.up)).eraseDups

/-- Take in the oldest batch of events, if one waits. -/
def takeEvents (host : ScriptedHost) : ScriptedHost :=
  match host.waiting with
  | [] => { host with pressed := [], released := [] }
  | events :: waiting =>
      let held := heldAfter host.held events
      { host with
        waiting
        held
        pressed := held.filter (· ∉ host.held)
        released := host.held.filter (· ∉ held) }

/-- Show a frame, unless it is refused. -/
def showFrame (host : ScriptedHost) (pixels : PixelBuffer) : ScriptedHost × Bool :=
  match host.refused with
  | refused + 1 => ({ host with refused }.note .failed, false)
  | 0 =>
      let event := if host.shown = some pixels then .sameFrame else .frame pixels
      (({ host with shown := some pixels }.note event).takeEvents, true)

/-- Let key events arrive. -/
def enqueue (host : ScriptedHost) (events : KeyEvents) : ScriptedHost :=
  { host with waiting := host.waiting ++ [events] }

/-- Let time go by. -/
def advance (host : ScriptedHost) (nanoseconds : Nat) : ScriptedHost :=
  { host with clock := host.clock + nanoseconds }

/-- Close the window. -/
def close (host : ScriptedHost) : ScriptedHost :=
  { host with isOpen := false }

/-- Refuse the next so many frames, and no others. -/
def refuseNext (host : ScriptedHost) (frames : Nat) : ScriptedHost :=
  { host with refused := frames }

/-- Refuse some more frames. -/
def refuse (host : ScriptedHost) (frames : Nat) : ScriptedHost :=
  { host with refused := host.refused + frames }

/-- What happens at a turn of the outer loop. -/
def take (host : ScriptedHost) (turn : Turn) : ScriptedHost :=
  let host := host.advance turn.nanoseconds
  let host := turn.keys.elim host host.enqueue
  let host := if turn.close then host.close else host
  host.refuse turn.refused

/-- Begin the next turn of the outer loop. -/
def nextTurn (host : ScriptedHost) : ScriptedHost :=
  if host.loopStarted then
    match host.turns with
    | [] => host.close
    | turn :: turns => { host with turns }.take turn
  else { host with loopStarted := true }

instance : Host ScriptedHost where
  readClock host := (host.clock, host)
  pump host := (host.note .pump).takeEvents
  showFrame := showFrame
  pressedKeys host := host.pressed
  releasedKeys host := host.released
  isOpen host := host.isOpen
  isKeyDown host key := host.held.contains key

instance : LoopClock ScriptedHost where
  readLoopClock host :=
    let host := host.nextTurn
    (host.clock, host)

end ScriptedHost

end Chip8
