/-
# Displays that bring keys in batches

A machine polls its display behind each frame that it shows, and a poll takes in one
batch of host keys. `PolledDisplay` names the batches that are still to come, so that two
displays can be compared by what they will bring, even if one is a window and the other is
not. Drawing does not reach the keys: it leaves the batches to come as they are.

The laws speak about a frame and the poll behind it together, because that is the only way
in which a machine polls. A display whose frames take in events as well may be one of these.
-/

import Chip8.Proofs.ScreenDisplay

namespace Chip8

/-- A display that takes in one batch of host keys behind each frame. -/
class PolledDisplay (δ : Type) [Display δ] [ScreenDisplay δ] where
  /-- The batch that is taken in behind so many others. -/
  batch : δ → Nat → KeyBatch
  keypad_refresh : ∀ display,
    ScreenDisplay.keypad (Display.pollInput (Display.presentFrame display).1) =
      (ScreenDisplay.keypad display).update (batch display 0)
  batch_refresh : ∀ display count,
    batch (Display.pollInput (Display.presentFrame display).1) count = batch display (count + 1)
  batch_clearScreen : ∀ display, batch (Display.clearScreen display) = batch display
  batch_drawSprite : ∀ display sprite x y after collided,
    Display.drawSprite display sprite x y = .ok (after, collided) → batch after = batch display

namespace PolledDisplay

variable {δ : Type} [Display δ] [ScreenDisplay δ] [PolledDisplay δ]

theorem batch_drawn (display : δ) (sprite : List UInt8) (x y : UInt8) :
    batch (ScreenDisplay.drawn display sprite x y).1 = batch display :=
  batch_drawSprite display sprite x y _ _ (ScreenDisplay.drawSprite_eq_ok display sprite x y)

end PolledDisplay

/-! ## The headless display -/

/-- A batch that names no key changes nothing. -/
theorem Keypad.update_nil (keypad : Keypad) : keypad.update ⟨[], []⟩ = keypad := rfl

/-- Behind the end of its queue the headless display brings empty batches. -/
instance : PolledDisplay HeadlessDisplay where
  batch display count := display.queue.getD count ⟨[], []⟩
  keypad_refresh display := by
    change ({ display with frames := display.frames + 1 } : HeadlessDisplay).poll.keypad = _
    rw [HeadlessDisplay.poll]
    split
    · next empty =>
        rw [empty, List.getD_nil, Keypad.update_nil]
        rfl
    · next batch queue split =>
        rw [split, List.getD_cons_zero]
        rfl
  batch_refresh display count := by
    change ({ display with frames := display.frames + 1 } : HeadlessDisplay).poll.queue.getD
      count _ = _
    rw [HeadlessDisplay.poll]
    split
    · next empty => rw [empty, List.getD_nil, List.getD_nil]
    · next batch queue split => rw [split, List.getD_cons_succ]
  batch_clearScreen _ := rfl
  batch_drawSprite display sprite x y after collided drawn := by
    change (display.screen.paint sprite x y >>= _) = _ at drawn
    cases painted : display.screen.paint sprite x y with
    | error breach =>
        rw [painted] at drawn
        cases drawn
    | ok result =>
        rw [painted] at drawn
        cases drawn
        rfl

end Chip8
