/-
# Calls to a window

A display is called by a machine, and a display in a window calls its host in turn. Which
calls it makes depends on the time, on what was drawn, and on whether a frame was shown since
the last poll, and most of them cannot be seen in the display afterwards. So a tape is put
around the host, which hands each call on and writes it down together with its answer. The
display behaves the same with and without the tape, as `untapedHom` says.

`perform` is what one call does to a display, of whatever kind. For a display in a window,
`hostCalls` says what the call asks of the host: nothing if it draws, and otherwise what the
clock and the last frame make necessary. Questions about the window and about keys change
nothing and are not written down.
-/

import Chip8.Proofs.Tape

namespace Chip8

/-! ## What a call does -/

namespace DisplayCall

/-- Whether a call only draws. -/
def Draws : DisplayCall → Prop
  | .clearScreen | .drawSprite .. => True
  | .presentFrame | .pollInput => False

/-- The screen behind a call. -/
def drawOn (screen : Screen) : DisplayCall → Screen
  | .clearScreen => .blank
  | .drawSprite sprite x y =>
      match screen.paint sprite x y with
      | .ok (painted, _) => painted
      | .error _ => screen
  | .presentFrame | .pollInput => screen

/-- What some calls draw on a blank screen. -/
def drawing (calls : List DisplayCall) : Screen := calls.foldl drawOn .blank

variable {δ : Type} [Display δ]

/-- The display behind a call. -/
def perform (display : δ) : DisplayCall → δ
  | .clearScreen => Display.clearScreen display
  | .drawSprite sprite x y => (ScreenDisplay.drawn display sprite x y).1
  | .presentFrame => (Display.presentFrame display).1
  | .pollInput => Display.pollInput display

/-- The display behind some calls, of which the first comes first. -/
def performAll (display : δ) (calls : List DisplayCall) : δ :=
  calls.foldl perform display

theorem performAll_cons (display : δ) (call : DisplayCall) (rest : List DisplayCall) :
    performAll display (call :: rest) = performAll (perform display call) rest := rfl

theorem performAll_append (display : δ) (calls more : List DisplayCall) :
    performAll display (calls ++ more) = performAll (performAll display calls) more :=
  List.foldl_append

variable [ScreenDisplay δ]

theorem screen_perform (display : δ) (call : DisplayCall) :
    ScreenDisplay.screen (call.perform display) = drawOn (ScreenDisplay.screen display) call := by
  cases call with
  | clearScreen => exact ScreenDisplay.screen_clearScreen display
  | drawSprite sprite x y =>
      obtain ⟨⟨painted, collided⟩, paints⟩ :=
        (ScreenDisplay.screen display).paint_eq_ok sprite x y
      rw [perform, drawOn, paints]
      exact (ScreenDisplay.drawn_of_paint paints).1
  | presentFrame => exact ScreenDisplay.screen_presentFrame display
  | pollInput => exact ScreenDisplay.screen_pollInput display

/-- What is on a screen depends on nothing but what was drawn. -/
theorem screen_performAll (display : δ) (calls : List DisplayCall) :
    ScreenDisplay.screen (performAll display calls) =
      calls.foldl drawOn (ScreenDisplay.screen display) := by
  induction calls generalizing display with
  | nil => rfl
  | cons call rest ih => rw [performAll_cons, ih, screen_perform, List.foldl_cons]

end DisplayCall

namespace DisplayHom

variable {δ δ' : Type} [Display δ] [ScreenDisplay δ] [Display δ'] [ScreenDisplay δ'] {view : δ → δ'}

theorem perform (hom : DisplayHom view) (display : δ) (call : DisplayCall) :
    call.perform (view display) = view (call.perform display) := by
  cases call with
  | clearScreen => exact hom.clearScreen_eq display
  | drawSprite sprite x y => exact congrArg Prod.fst (hom.drawn_eq display sprite x y)
  | presentFrame => exact congrArg Prod.fst (hom.presentFrame_eq display)
  | pollInput => exact hom.pollInput_eq display

theorem performAll (hom : DisplayHom view) (display : δ) (calls : List DisplayCall) :
    DisplayCall.performAll (view display) calls = view (DisplayCall.performAll display calls) := by
  induction calls generalizing display with
  | nil => rfl
  | cons call rest ih =>
      rw [DisplayCall.performAll_cons, hom.perform, ih, DisplayCall.performAll_cons]

end DisplayHom

/-! ## Tapes around hosts -/

/-- A call that a display makes to its host, with the answer. -/
inductive HostCall where
  /-- The clock was read. -/
  | readClock (now : Nat)
  /-- Events were taken in. -/
  | pump
  /-- A frame was to be shown, and events to be taken in. -/
  | showFrame (pixels : PixelBuffer) (shown : Bool)
  deriving DecidableEq

/-- A host with a tape of the calls to it. -/
structure TapedHost (η : Type) where
  /-- What the calls are handed on to. -/
  host : η
  /-- The calls, the oldest first. -/
  calls : List HostCall

instance {η : Type} [Host η] : Host (TapedHost η) where
  readClock tape :=
    let (now, host) := Host.readClock tape.host
    (now, ⟨host, tape.calls ++ [.readClock now]⟩)
  pump tape := ⟨Host.pump tape.host, tape.calls ++ [.pump]⟩
  showFrame tape pixels :=
    let (host, shown) := Host.showFrame tape.host pixels
    (⟨host, tape.calls ++ [.showFrame pixels shown]⟩, shown)
  pressedKeys tape := Host.pressedKeys tape.host
  releasedKeys tape := Host.releasedKeys tape.host
  isOpen tape := Host.isOpen tape.host
  isKeyDown tape := Host.isKeyDown tape.host

/-! ## Calls to a display in a window -/

namespace WindowDisplay

variable {η : Type} [Host η] {display : WindowDisplay η}

theorem perform_drawSprite (display : WindowDisplay η) (sprite : List UInt8) (x y : UInt8) :
    (DisplayCall.drawSprite sprite x y).perform display =
      { display with
        screen := (DisplayCall.drawSprite sprite x y).drawOn display.screen
        dirty := true } := by
  obtain ⟨⟨painted, collided⟩, paints⟩ := display.screen.paint_eq_ok sprite x y
  have drawn : Display.drawSprite display sprite x y =
      .ok ({ display with screen := painted, dirty := true }, collided) := by
    change (display.screen.paint sprite x y >>= _) = _
    rw [paints]
    rfl
  rw [DisplayCall.perform, DisplayCall.drawOn, paints, ScreenDisplay.drawn, drawn]

/-- Drawing touches the screen, and says so, but does not reach the host. -/
theorem perform_of_draws {call : DisplayCall} (draws : call.Draws) (display : WindowDisplay η) :
    call.perform display =
      { display with screen := call.drawOn display.screen, dirty := true } := by
  cases call with
  | clearScreen => rfl
  | drawSprite sprite x y => exact perform_drawSprite display sprite x y
  | presentFrame | pollInput => exact draws.elim

/-- Whether a frame is due: whether the last one was shown long enough ago. -/
def isDue (display : WindowDisplay η) : Bool :=
  display.refreshInterval ≤ (Host.readClock display.host).1 - display.lastRefresh

/-- The display that has looked at the clock. -/
def clocked (display : WindowDisplay η) : WindowDisplay η :=
  { display with host := (Host.readClock display.host).2 }

/-- The pixels that a frame is shown with. -/
def upToDate (display : WindowDisplay η) : PixelBuffer :=
  if display.dirty then render display.screen else display.pixels

theorem presentFrame_of_early (early : display.isDue = false) :
    display.presentFrame = (display.clocked, []) :=
  if_pos (Nat.lt_of_not_le (of_decide_eq_false early))

theorem presentFrame_of_due (due : display.isDue = true) :
    display.presentFrame = display.clocked.refresh :=
  if_neg (Nat.not_lt.mpr (of_decide_eq_true due))

omit [Host η] in
theorem sync_eq (display : WindowDisplay η) :
    display.sync = { display with pixels := display.upToDate, dirty := false } := by
  rcases display with ⟨host, screen, keypad, pixels, interval, shown, dirty, pumped⟩
  cases dirty <;> rfl

/-- A frame is shown with pixels that are up to date, and they are kept, whether the host takes
the frame or not. -/
theorem refresh_eq (display : WindowDisplay η) :
    display.refresh =
      ({ display with
          host := (Host.showFrame (Host.readClock display.host).2 display.upToDate).1
          lastRefresh := (Host.readClock display.host).1
          pixels := display.upToDate
          dirty := false
          pumped := true },
        if (Host.showFrame (Host.readClock display.host).2 display.upToDate).2 then []
        else [.updateFailed]) := by
  simp only [refresh, sync_eq]
  rfl

/-- What showing a frame asks of the host. -/
def refreshCalls (display : WindowDisplay η) : List HostCall :=
  [.readClock (Host.readClock display.host).1,
    .showFrame display.upToDate
      (Host.showFrame (Host.readClock display.host).2 display.upToDate).2]

/-- What a call asks of the host. -/
def hostCalls (display : WindowDisplay η) : DisplayCall → List HostCall
  | .clearScreen | .drawSprite .. => []
  | .presentFrame =>
      .readClock (Host.readClock display.host).1 ::
        if display.isDue then display.clocked.refreshCalls else []
  | .pollInput => if display.pumped then [] else [.pump]

/-! ## Tapes change nothing else -/

/-- The display without the tape around its host. -/
def untaped (display : WindowDisplay (TapedHost η)) : WindowDisplay η :=
  { display with host := display.host.host }

theorem untapedHom : DisplayHom (untaped : WindowDisplay (TapedHost η) → WindowDisplay η) where
  keypad_eq _ := rfl
  clearScreen_eq _ := rfl
  drawn_eq display sprite x y := by
    have same : ScreenDisplay.screen display.untaped = ScreenDisplay.screen display := rfl
    apply Prod.ext
    · change (DisplayCall.drawSprite sprite x y).perform display.untaped =
        ((DisplayCall.drawSprite sprite x y).perform display).untaped
      rw [perform_drawSprite, perform_drawSprite]
      rfl
    · exact (ScreenDisplay.drawn_congr same sprite x y).2
  presentFrame_eq display := by
    change display.untaped.presentFrame = display.presentFrame.map untaped id
    have due_eq : display.untaped.isDue = display.isDue := rfl
    cases due : display.isDue with
    | true =>
        rw [presentFrame_of_due due, presentFrame_of_due (due_eq.trans due), refresh_eq, refresh_eq]
        rfl
    | false =>
        rw [presentFrame_of_early due, presentFrame_of_early (due_eq.trans due)]
        rfl
  pollInput_eq display := by
    rcases display with ⟨host, screen, keypad, pixels, interval, shown, dirty, pumped⟩
    cases pumped <;> rfl

/-- What is asked of the host is written down behind what was asked before. -/
theorem calls_perform (display : WindowDisplay (TapedHost η)) (call : DisplayCall) :
    (call.perform display).host.calls = display.host.calls ++ display.hostCalls call := by
  cases call with
  | clearScreen => exact (List.append_nil _).symm
  | drawSprite sprite x y =>
      rw [perform_drawSprite]
      exact (List.append_nil _).symm
  | presentFrame =>
      change display.presentFrame.1.host.calls = _
      cases due : display.isDue with
      | true =>
          rw [presentFrame_of_due due, refresh_eq, hostCalls, due, if_pos rfl]
          change (display.host.calls ++ [_] ++ [_]) ++ [_] = _
          rw [List.append_assoc, List.append_assoc]
          rfl
      | false =>
          rw [presentFrame_of_early due, hostCalls, due]
          rfl
  | pollInput =>
      rcases display with ⟨host, screen, keypad, pixels, interval, shown, dirty, pumped⟩
      cases pumped with
      | true => exact (List.append_nil _).symm
      | false => rfl

/-- Nothing is taken off the tape again. -/
theorem exists_calls_performAll (display : WindowDisplay (TapedHost η))
    (calls : List DisplayCall) :
    ∃ asked, (DisplayCall.performAll display calls).host.calls = display.host.calls ++ asked := by
  induction calls generalizing display with
  | nil => exact ⟨[], (List.append_nil _).symm⟩
  | cons call rest ih =>
      obtain ⟨asked, later⟩ := ih (call.perform display)
      rw [calls_perform, List.append_assoc] at later
      exact ⟨_, later⟩

end WindowDisplay

end Chip8
