/-
# The host

What a window, a clock and a file system look like from here. A window is given
by operations on a state of its own. It holds events back until it is pumped;
showing a frame pumps as well, if it succeeds. Which keys went down or came up is
always said about the latest pump.

There are two clocks, one read by the display and one read by the outer loop, so
that each can be followed on its own.
-/

import Chip8.CommandLine.Arguments
import Chip8.Keypad

namespace Chip8

/-- The pixels of a frame, row by row, as the host wants them. -/
abbrev PixelBuffer : Type := Vector UInt32 2048

/-- A window that is open, and the clocks beside it. -/
class Host (η : Type) where
  /-- Read the display's clock, in nanoseconds. -/
  readClock : η → Nat × η
  /-- Take in one batch of events. -/
  pump : η → η
  /-- Show a frame and take in one batch of events. The answer is whether it worked. -/
  showFrame : η → PixelBuffer → η × Bool
  /-- Keys that went down at the latest pump. -/
  pressedKeys : η → List HostKey
  /-- Keys that came up at the latest pump. -/
  releasedKeys : η → List HostKey
  /-- Whether the window is still there. -/
  isOpen : η → Bool
  /-- Whether a key is held. -/
  isKeyDown : η → HostKey → Bool

/-- A clock for an outer loop. -/
class LoopClock (η : Type) where
  /-- Read the loop's clock, in nanoseconds. -/
  readLoopClock : η → Nat × η

/-- The window that a session asks for. -/
structure WindowRequest where
  /-- The text above the window. -/
  title : String
  /-- The size of a pixel. -/
  scale : CommandLine.WindowScale
  deriving DecidableEq, Repr

/-- Why there is no window: the host's own description. -/
structure WindowError where
  /-- What the host says. -/
  description : String
  deriving DecidableEq, Repr

/-- The wording for a user, who is not told the host's description. -/
def WindowError.message (_ : WindowError) : String := "Failed to create window"

end Chip8
