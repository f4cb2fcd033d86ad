/-
# A display in a window

A screen and a keypad behind a window of the host. The window is refreshed at a
rate of its own, so that showing frames does not hold the machine back: a frame
that is presented too early is skipped. Pixels are copied for the host only when
a frame is shown and the screen may have changed since the last copy.

Each poll of the keys has to see one new batch of events. A frame that was shown
has already pumped one, and then the poll that follows does not pump again, not
even if the host refused the frame.
-/

import Chip8.Display.RefreshInterval
import Chip8.Host
import Chip8.Peripheral
import Chip8.Screen

namespace Chip8

/-- A display in a window. -/
structure WindowDisplay (η : Type) where
  /-- The window. -/
  host : η
  /-- The pixels of the machine. -/
  screen : Screen
  /-- The keys of the machine. -/
  keypad : Keypad
  /-- The pixels of the latest copy. -/
  pixels : PixelBuffer
  /-- The least time between two frames, in nanoseconds. -/
  refreshInterval : Nat
  /-- When the latest frame was shown. -/
  lastRefresh : Nat
  /-- Whether the screen may differ from the latest copy. -/
  dirty : Bool
  /-- Whether a frame was shown since the keys were polled. -/
  pumped : Bool

namespace WindowDisplay

/-- The colour of a pixel. -/
def shade (lit : Bool) : UInt32 :=
  if lit then 0x00FFFFFF else 0x00000000

/-- The colours of all pixels. -/
def render (screen : Screen) : PixelBuffer := screen.pixels.map shade

variable {η : Type} [Host η]

/-- A display in a window that has just been opened. -/
def openOn (host : η) (refreshRate : UInt32) : WindowDisplay η × List LogRecord :=
  let (now, host) := Host.readClock host
  let display : WindowDisplay η := {
    host
    screen := .blank
    keypad := .allUp
    pixels := Vector.replicate 2048 (shade false)
    refreshInterval := RefreshInterval.ofRate refreshRate
    lastRefresh := now
    dirty := true
    pumped := false }
  (display, [.windowOpened refreshRate])

/-- Bring the copy of the pixels up to date. -/
def sync (display : WindowDisplay η) : WindowDisplay η :=
  if display.dirty then { display with pixels := render display.screen, dirty := false }
  else display

/-- Show a frame, whatever the time. The clock is read once more for its time. -/
def refresh (display : WindowDisplay η) : WindowDisplay η × List LogRecord :=
  let (now, host) := Host.readClock display.host
  let display := { display with host, lastRefresh := now }.sync
  let (host, shown) := Host.showFrame display.host display.pixels
  ({ display with host, pumped := true }, if shown then [] else [.updateFailed])

/-- Show a frame if the last one was shown long enough ago. -/
def presentFrame (display : WindowDisplay η) : WindowDisplay η × List LogRecord :=
  let (now, host) := Host.readClock display.host
  let display := { display with host }
  if now - display.lastRefresh < display.refreshInterval then (display, [])
  else display.refresh

/-- Take in what the latest batch of events says about the keys. -/
def pollInput (display : WindowDisplay η) : WindowDisplay η :=
  let host := if display.pumped then display.host else Host.pump display.host
  { display with
    host
    pumped := false
    keypad := display.keypad.update ⟨Host.pressedKeys host, Host.releasedKeys host⟩ }

/-- Whether the window was closed or the key that ends a session is held. -/
def shouldTerminate (display : WindowDisplay η) : Bool :=
  !Host.isOpen display.host || Host.isKeyDown display.host .escape

instance : Display (WindowDisplay η) where
  clearScreen display := { display with screen := .blank, dirty := true }
  drawSprite display sprite x y := do
    let (screen, collided) ← display.screen.paint sprite x y
    return ({ display with screen, dirty := true }, collided)
  isKeyPressed display key := display.keypad.isPressed key
  shouldTerminate := shouldTerminate
  presentFrame := presentFrame
  pollInput := pollInput

end WindowDisplay

end Chip8
