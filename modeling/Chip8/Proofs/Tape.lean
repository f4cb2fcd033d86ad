/-
# Tapes

How often, and in which order, a machine calls its display and its buzzer cannot be seen
from the machine alone, since what a call does is theirs to say. A tape can be put around
any display and any buzzer: it hands each call on and writes it down. A machine behaves the
same with and without tapes, and with them its calls can be counted. Taking a tape off is a
map that commutes with every call: `DisplayHom` and `BuzzerHom` name such maps.

Questions about keys and about the end of a session are not written down. They have no
effect on the display, so nobody can tell how often they were asked.
-/

import Chip8.Proofs.PolledDisplay

namespace Chip8

/-- A call that a machine makes to its display. -/
inductive DisplayCall where
  | clearScreen
  | drawSprite (sprite : List UInt8) (x y : UInt8)
  | presentFrame
  | pollInput
  deriving DecidableEq

/-- A display with a tape of the calls to it. -/
structure Taped (δ : Type) where
  /-- What the calls are handed on to. -/
  display : δ
  /-- The calls, the oldest first. -/
  calls : List DisplayCall

/-- A buzzer with a tape of what it was asked for. -/
structure TapedBuzzer (β : Type) where
  /-- What the requests are handed on to. -/
  buzzer : β
  /-- The requests, the oldest first. -/
  requests : List Bool

instance {β : Type} [Buzzer β] : Buzzer (TapedBuzzer β) where
  setActive tape active :=
    let (buzzer, records) := Buzzer.setActive tape.buzzer active
    (⟨buzzer, tape.requests ++ [active]⟩, records)

namespace Taped

variable {δ : Type} [Display δ]

instance : Display (Taped δ) where
  clearScreen tape := ⟨Display.clearScreen tape.display, tape.calls ++ [.clearScreen]⟩
  drawSprite tape sprite x y := do
    let (display, collided) ← Display.drawSprite tape.display sprite x y
    return (⟨display, tape.calls ++ [.drawSprite sprite x y]⟩, collided)
  isKeyPressed tape key := Display.isKeyPressed tape.display key
  shouldTerminate tape := Display.shouldTerminate tape.display
  presentFrame tape :=
    let (display, records) := Display.presentFrame tape.display
    (⟨display, tape.calls ++ [.presentFrame]⟩, records)
  pollInput tape := ⟨Display.pollInput tape.display, tape.calls ++ [.pollInput]⟩

theorem drawSprite_of_ok {tape : Taped δ} {sprite : List UInt8} {x y : UInt8} {display : δ}
    {collided : Bool}
    (drawn : Display.drawSprite tape.display sprite x y = .ok (display, collided)) :
    Display.drawSprite tape sprite x y =
      .ok (⟨display, tape.calls ++ [.drawSprite sprite x y]⟩, collided) := by
  change (Display.drawSprite tape.display sprite x y >>= _) = _
  rw [drawn]
  rfl

variable [ScreenDisplay δ]

instance : ScreenDisplay (Taped δ) where
  screen tape := ScreenDisplay.screen tape.display
  keypad tape := ScreenDisplay.keypad tape.display
  withKeypad tape keypad := { tape with display := ScreenDisplay.withKeypad tape.display keypad }
  isKeyPressed_eq tape := ScreenDisplay.isKeyPressed_eq tape.display
  screen_clearScreen tape := ScreenDisplay.screen_clearScreen tape.display
  keypad_clearScreen tape := ScreenDisplay.keypad_clearScreen tape.display
  drawSprite_eq tape sprite x y := by
    have handedOn := ScreenDisplay.drawSprite_eq tape.display sprite x y
    rw [ScreenDisplay.drawSprite_eq_ok] at handedOn
    rw [drawSprite_of_ok (ScreenDisplay.drawSprite_eq_ok _ _ _ _), ← handedOn]
    rfl
  screen_presentFrame tape := ScreenDisplay.screen_presentFrame tape.display
  keypad_presentFrame tape := ScreenDisplay.keypad_presentFrame tape.display
  screen_pollInput tape := ScreenDisplay.screen_pollInput tape.display
  screen_withKeypad tape := ScreenDisplay.screen_withKeypad tape.display
  keypad_withKeypad tape := ScreenDisplay.keypad_withKeypad tape.display

/-- A sprite that is drawn is written down once. -/
theorem drawn_eq (tape : Taped δ) (sprite : List UInt8) (x y : UInt8) :
    ScreenDisplay.drawn tape sprite x y =
      (⟨(ScreenDisplay.drawn tape.display sprite x y).1,
          tape.calls ++ [.drawSprite sprite x y]⟩,
        (ScreenDisplay.drawn tape.display sprite x y).2) := by
  have handedOn := ScreenDisplay.drawSprite_eq_ok tape.display sprite x y
  have drawn := ScreenDisplay.drawSprite_eq_ok tape sprite x y
  exact Except.ok.inj (drawn.symm.trans (drawSprite_of_ok handedOn))

instance [PolledDisplay δ] : PolledDisplay (Taped δ) where
  batch tape := PolledDisplay.batch tape.display
  keypad_refresh tape := PolledDisplay.keypad_refresh tape.display
  batch_refresh tape := PolledDisplay.batch_refresh tape.display
  batch_clearScreen tape := PolledDisplay.batch_clearScreen tape.display
  batch_drawSprite tape sprite x y after collided drawn := by
    rw [drawSprite_of_ok (ScreenDisplay.drawSprite_eq_ok _ _ _ _), Except.ok.injEq,
      Prod.mk.injEq] at drawn
    rw [← drawn.1]
    exact PolledDisplay.batch_drawn tape.display sprite x y

end Taped

/-! ## Taking tapes off -/

section Homs

variable {δ δ' β β' : Type}

/-- A map of displays that commutes with all that a machine does with a display. -/
structure DisplayHom [Display δ] [ScreenDisplay δ] [Display δ'] [ScreenDisplay δ']
    (view : δ → δ') : Prop where
  keypad_eq : ∀ display, ScreenDisplay.keypad (view display) = ScreenDisplay.keypad display
  clearScreen_eq : ∀ display,
    Display.clearScreen (view display) = view (Display.clearScreen display)
  drawn_eq : ∀ display sprite x y, ScreenDisplay.drawn (view display) sprite x y =
    (ScreenDisplay.drawn display sprite x y).map view id
  presentFrame_eq : ∀ display,
    Display.presentFrame (view display) = (Display.presentFrame display).map view id
  pollInput_eq : ∀ display, Display.pollInput (view display) = view (Display.pollInput display)

/-- A map of buzzers that commutes with requests. -/
structure BuzzerHom [Buzzer β] [Buzzer β'] (view : β → β') : Prop where
  setActive_eq : ∀ buzzer active,
    Buzzer.setActive (view buzzer) active = (Buzzer.setActive buzzer active).map view id

theorem DisplayHom.id [Display δ] [ScreenDisplay δ] : DisplayHom (id : δ → δ) :=
  ⟨fun _ => rfl, fun _ => rfl, fun _ _ _ _ => rfl, fun _ => rfl, fun _ => rfl⟩

theorem Taped.displayHom [Display δ] [ScreenDisplay δ] :
    DisplayHom (Taped.display : Taped δ → δ) where
  keypad_eq _ := rfl
  clearScreen_eq _ := rfl
  drawn_eq tape sprite x y := by
    rw [Taped.drawn_eq]
    rfl
  presentFrame_eq _ := rfl
  pollInput_eq _ := rfl

theorem TapedBuzzer.buzzerHom [Buzzer β] :
    BuzzerHom (TapedBuzzer.buzzer : TapedBuzzer β → β) :=
  ⟨fun _ _ => rfl⟩

end Homs

end Chip8
