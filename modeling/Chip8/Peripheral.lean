/-
# What a machine is connected to

A machine draws on a display and reads keys from it, asks a source for random
bytes, and tells a buzzer whether to sound. Each of the three is an interface,
given by operations on a state of its own, so that a machine can be run with a
window or without one, and reasoned about with either.

Operations that may have something to report return the log records of the call.
-/

import Chip8.Keypad
import Chip8.Log

namespace Chip8

/-- A display with its keypad and the life of its window. -/
class Display (δ : Type) where
  /-- Make all pixels dark. -/
  clearScreen : δ → δ
  /-- Paint a sprite; also says whether it collided with what was there. -/
  drawSprite : δ → List UInt8 → UInt8 → UInt8 → Except Breach (δ × Bool)
  /-- Whether a key is down. -/
  isKeyPressed : δ → UInt8 → Except Breach Bool
  /-- Whether the user wants to stop. -/
  shouldTerminate : δ → Bool
  /-- Show the pixels, if it is time to. -/
  presentFrame : δ → δ × List LogRecord
  /-- Take in what happened to the keys. -/
  pollInput : δ → δ

/-- A source of random bytes. -/
class RandomSource (ρ : Type) where
  /-- The next byte, and the source behind it. -/
  nextByte : ρ → UInt8 × ρ

/-- Something that can sound. -/
class Buzzer (β : Type) where
  /-- Ask for sound or for silence. -/
  setActive : β → Bool → β × List LogRecord

/-- A buzzer that may be missing. Without one, all requests are ignored. -/
instance {β : Type} [Buzzer β] : Buzzer (Option β) where
  setActive
    | none, _ => (none, [])
    | some buzzer, active =>
        let (buzzer, records) := Buzzer.setActive buzzer active
        (some buzzer, records)

end Chip8
