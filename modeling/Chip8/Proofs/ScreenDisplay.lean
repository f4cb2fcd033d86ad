/-
# Displays that are a screen and a keypad

A machine knows its display only as an interface. The statements about whole
machines are about displays that paint on a `Screen` and answer about a `Keypad`,
whatever else they keep: a count of calls, a queue of reports, a window with its
clock. `ScreenDisplay` says what such a display is, and the headless display and
the display in a window are two of them.

Nothing is said about what polling does to the keys, since that is for the host to
say, nor about when a frame is shown.
-/

import Chip8.Display.Headless
import Chip8.Display.Window
import Chip8.Proofs.Screen.Bounds

namespace Chip8

/-- A display that paints on a screen and answers about a keypad. -/
class ScreenDisplay (δ : Type) [Display δ] where
  /-- What is painted on. -/
  screen : δ → Screen
  /-- What is asked about keys. -/
  keypad : δ → Keypad
  /-- The display with other keys down. -/
  withKeypad : δ → Keypad → δ
  isKeyPressed_eq : ∀ display key,
    Display.isKeyPressed display key = (keypad display).isPressed key
  screen_clearScreen : ∀ display, screen (Display.clearScreen display) = .blank
  keypad_clearScreen : ∀ display, keypad (Display.clearScreen display) = keypad display
  /-- Drawing is painting: it fails only if painting does, and leaves the keys alone. -/
  drawSprite_eq : ∀ display sprite x y,
    (Display.drawSprite display sprite x y).map
        (fun (after, collided) => (screen after, keypad after, collided)) =
      ((screen display).paint sprite x y).map
        fun (painted, collided) => (painted, keypad display, collided)
  screen_presentFrame : ∀ display, screen (Display.presentFrame display).1 = screen display
  keypad_presentFrame : ∀ display, keypad (Display.presentFrame display).1 = keypad display
  screen_pollInput : ∀ display, screen (Display.pollInput display) = screen display
  screen_withKeypad : ∀ display keys, screen (withKeypad display keys) = screen display
  keypad_withKeypad : ∀ display keys, keypad (withKeypad display keys) = keys

/-! ## Keys -/

namespace Keypad

variable (keypad : Keypad)

/-- Whether a key is down. A number that names no key is never down. -/
def holds (number : UInt8) : Bool :=
  if inside : number.toNat < 16 then keypad.keys.get ⟨number.toNat, inside⟩ else false

theorem isPressed_of_lt {number : UInt8} (small : number.toNat < 16) :
    keypad.isPressed number = .ok (keypad.holds number) := by
  rw [isPressed, key, dif_pos small, holds, dif_pos small]
  rfl

theorem press_of_lt {number : UInt8} (small : number.toNat < 16) :
    keypad.press number = .ok (keypad.put ⟨number.toNat, small⟩ true) := by
  rw [press, key, dif_pos small]
  rfl

theorem release_of_lt {number : UInt8} (small : number.toNat < 16) :
    keypad.release number = .ok (keypad.put ⟨number.toNat, small⟩ false) := by
  rw [release, key, dif_pos small]
  rfl

end Keypad

namespace ScreenDisplay

variable {δ : Type} [Display δ] [ScreenDisplay δ]

/-- Asking about a key that exists always gets an answer. -/
theorem isKeyPressed_of_lt (display : δ) {number : UInt8} (small : number.toNat < 16) :
    Display.isKeyPressed display number = .ok ((keypad display).holds number) := by
  rw [isKeyPressed_eq, Keypad.isPressed_of_lt _ small]

/-- The display on which a sprite was drawn, and whether it collided. -/
def drawn (display : δ) (sprite : List UInt8) (x y : UInt8) : δ × Bool :=
  match Display.drawSprite display sprite x y with
  | .ok answer => answer
  | .error _ => (display, false)

/-- Drawing a sprite always succeeds. -/
theorem drawSprite_eq_ok (display : δ) (sprite : List UInt8) (x y : UInt8) :
    Display.drawSprite display sprite x y = .ok (drawn display sprite x y) := by
  obtain ⟨painted, succeeds⟩ := (screen display).paint_eq_ok sprite x y
  have agrees := drawSprite_eq display sprite x y
  rw [drawn]
  cases outcome : Display.drawSprite display sprite x y with
  | ok answer => rfl
  | error breach =>
      rw [outcome, succeeds] at agrees
      cases agrees

/-- What is drawn on a display is painted on its screen. -/
theorem drawn_of_paint {display : δ} {sprite : List UInt8} {x y : UInt8} {painted : Screen}
    {collided : Bool} (paints : (screen display).paint sprite x y = .ok (painted, collided)) :
    screen (drawn display sprite x y).1 = painted ∧
      (drawn display sprite x y).2 = collided := by
  have agrees := drawSprite_eq display sprite x y
  rw [drawSprite_eq_ok, paints] at agrees
  have same := Except.ok.inj agrees
  exact ⟨congrArg (·.1) same, congrArg (·.2.2) same⟩

theorem keypad_drawn (display : δ) (sprite : List UInt8) (x y : UInt8) :
    keypad (drawn display sprite x y).1 = keypad display := by
  obtain ⟨⟨painted, collided⟩, paints⟩ := (screen display).paint_eq_ok sprite x y
  have agrees := drawSprite_eq display sprite x y
  rw [drawSprite_eq_ok, paints] at agrees
  exact congrArg (·.2.1) (Except.ok.inj agrees)

/-- What a drawing does to the screen depends on nothing else of the display. -/
theorem drawn_congr {δ' : Type} [Display δ'] [ScreenDisplay δ'] {display : δ} {display' : δ'}
    (same : screen display = screen display') (sprite : List UInt8) (x y : UInt8) :
    screen (drawn display sprite x y).1 = screen (drawn display' sprite x y).1 ∧
      (drawn display sprite x y).2 = (drawn display' sprite x y).2 := by
  obtain ⟨⟨painted, collided⟩, paints⟩ := (screen display).paint_eq_ok sprite x y
  obtain ⟨onScreen, flag⟩ := drawn_of_paint paints
  rw [same] at paints
  obtain ⟨onScreen', flag'⟩ := drawn_of_paint paints
  exact ⟨onScreen.trans onScreen'.symm, flag.trans flag'.symm⟩

end ScreenDisplay

/-! ## The two displays -/

instance : ScreenDisplay HeadlessDisplay where
  screen := HeadlessDisplay.screen
  keypad := HeadlessDisplay.keypad
  withKeypad display keypad := { display with keypad }
  isKeyPressed_eq _ _ := rfl
  screen_clearScreen _ := rfl
  keypad_clearScreen _ := rfl
  drawSprite_eq display sprite x y := by
    change Except.map _ (display.screen.paint sprite x y >>= _) = _
    cases display.screen.paint sprite x y <;> rfl
  screen_presentFrame _ := rfl
  keypad_presentFrame _ := rfl
  screen_pollInput display := by
    change display.poll.screen = display.screen
    rw [HeadlessDisplay.poll]
    split <;> rfl
  screen_withKeypad _ _ := rfl
  keypad_withKeypad _ _ := rfl

namespace WindowDisplay

variable {η : Type} [Host η] (display : WindowDisplay η)

/-- Showing a frame changes neither what is on the screen nor which keys are down. -/
theorem presentFrame_keeps :
    display.presentFrame.1.screen = display.screen ∧
      display.presentFrame.1.keypad = display.keypad := by
  unfold presentFrame refresh sync
  dsimp only
  split
  · exact ⟨rfl, rfl⟩
  · split <;> exact ⟨rfl, rfl⟩

end WindowDisplay

instance {η : Type} [Host η] : ScreenDisplay (WindowDisplay η) where
  screen := WindowDisplay.screen
  keypad := WindowDisplay.keypad
  withKeypad display keypad := { display with keypad }
  isKeyPressed_eq _ _ := rfl
  screen_clearScreen _ := rfl
  keypad_clearScreen _ := rfl
  drawSprite_eq display sprite x y := by
    change Except.map _ (display.screen.paint sprite x y >>= _) = _
    cases display.screen.paint sprite x y <;> rfl
  screen_presentFrame display := display.presentFrame_keeps.1
  keypad_presentFrame display := display.presentFrame_keeps.2
  screen_pollInput _ := rfl
  screen_withKeypad _ _ := rfl
  keypad_withKeypad _ _ := rfl

end Chip8
