/-
# Every frame shows the screen

A display in a window keeps a copy of its pixels for the host and brings it up to date only
when a frame is shown and something may have been drawn since. The copy is therefore stale
most of the time, and the display marks it as such. What is not marked is a picture of the
screen, and this survives drawing, frames that are skipped, frames that the host refuses, and
polls.

So every frame that the host is given shows what was drawn until then. Nothing is assumed
about the host: its clock may stand still or run backwards, and it may refuse any frame.
-/

import Chip8.Proofs.Window.Calls

namespace Chip8

/-! ## Frames on a tape -/

/-- The frame that a host was given with a call. -/
def HostCall.frame? : HostCall → Option PixelBuffer
  | .showFrame pixels _ => some pixels
  | .readClock _ | .pump => none

/-- The frames that a host was given, whether it took them or not. -/
def TapedHost.frames {η : Type} (tape : TapedHost η) : List PixelBuffer :=
  tape.calls.filterMap HostCall.frame?

/-! ## Pictures of a screen -/

/-- Words for all pixels of a screen, row by row: white for those that are lit, and black for
the others. -/
structure PixelBuffer.Depicts (pixels : PixelBuffer) (screen : Screen) : Prop where
  size_eq : pixels.toArray.size = 2048
  word_eq : ∀ x y, x < Screen.width → y < Screen.height →
    ∃ lit, screen.isLit x y = .ok lit ∧
      pixels.toArray[y * 64 + x]? = some (if lit then 0x00FFFFFF else 0)

namespace WindowDisplay

theorem depicts_render (screen : Screen) : (render screen).Depicts screen := by
  refine ⟨(render screen).size_toArray, ?_⟩
  intro x y inRow inGrid
  have inside : y * 64 + x < 2048 := by
    simp only [Screen.width, Screen.height] at inRow inGrid
    omega
  refine ⟨screen.pixels[y * 64 + x], dif_pos inside, ?_⟩
  simp [render, shade, inside]

variable {η : Type} [Host η] {display : WindowDisplay η}

/-- The copy of the pixels is a picture of the screen, unless it is marked as stale. -/
def Synced (display : WindowDisplay η) : Prop :=
  display.dirty = false → display.pixels = render display.screen

omit [Host η] in
theorem Synced.upToDate_eq (synced : display.Synced) :
    display.upToDate = render display.screen := by
  rw [upToDate]
  cases stale : display.dirty with
  | true => rfl
  | false => exact synced stale

/-- A new copy is marked as stale. -/
theorem synced_openOn (host : η) (refreshRate : UInt32) : (openOn host refreshRate).1.Synced :=
  fun clean => nomatch clean

/-- The mark is put on with each drawing and taken off with each copy. -/
theorem Synced.perform (synced : display.Synced) (call : DisplayCall) :
    (call.perform display).Synced := by
  cases call with
  | clearScreen => exact fun clean => nomatch clean
  | drawSprite sprite x y =>
      rw [perform_drawSprite]
      exact fun clean => nomatch clean
  | presentFrame =>
      change display.presentFrame.1.Synced
      cases due : display.isDue with
      | false =>
          rw [presentFrame_of_early due]
          exact synced
      | true =>
          rw [presentFrame_of_due due, refresh_eq]
          exact fun _ => synced.upToDate_eq
  | pollInput => exact synced

theorem Synced.performAll (synced : display.Synced) (calls : List DisplayCall) :
    (DisplayCall.performAll display calls).Synced := by
  induction calls generalizing display with
  | nil => exact synced
  | cons call rest ih => exact ih (synced.perform call)

/-! ## What the host is given -/

/-- A frame is given to the host if one is presented when it is due, and with no other call. -/
theorem frames_perform (display : WindowDisplay (TapedHost η)) (call : DisplayCall) :
    (call.perform display).host.frames =
      display.host.frames ++
        if call = .presentFrame ∧ display.isDue = true then [display.upToDate] else [] := by
  rw [TapedHost.frames, calls_perform, List.filterMap_append]
  congr 1
  cases call with
  | clearScreen | drawSprite sprite x y => rfl
  | presentFrame =>
      rw [hostCalls]
      cases display.isDue <;> rfl
  | pollInput =>
      rw [hostCalls]
      cases display.pumped <;> rfl

/-- Any calls are made to a display whose window has just been opened, and then one more. The
tape around the host changes nothing, and what is on the screen is what was drawn. A frame is
given to the host if the last call presents one when it is due, and then it is a picture of the
screen. And whenever the copy of the pixels is not marked as stale, it is such a picture. -/
theorem frames_depict_screen (host : η) (refreshRate : UInt32) (calls : List DisplayCall)
    (call : DisplayCall) :
    let opened := (openOn (TapedHost.mk host []) refreshRate).1
    let before := DisplayCall.performAll opened calls
    let after := call.perform before
    let drawn := DisplayCall.drawing calls
    DisplayCall.performAll (openOn host refreshRate).1 (calls ++ [call]) = after.untaped ∧
      before.screen = drawn ∧
      opened.host.frames = [] ∧
      (∃ given, after.host.frames = before.host.frames ++ given ∧
        given.length = (if call = .presentFrame ∧ before.isDue = true then 1 else 0) ∧
        ∀ frame ∈ given, frame.Depicts drawn) ∧
      (before.dirty = false → before.pixels.Depicts drawn) := by
  intro opened before after drawn
  have screen_eq : before.screen = drawn := DisplayCall.screen_performAll opened calls
  have synced : before.Synced := (synced_openOn _ refreshRate).performAll calls
  refine ⟨?untaped, screen_eq, rfl, ⟨_, frames_perform before call, ?counted, ?pictures⟩, ?copy⟩
  case untaped =>
    have opened_eq : (openOn host refreshRate).1 = opened.untaped := rfl
    rw [opened_eq, untapedHom.performAll, DisplayCall.performAll_append]
    rfl
  case counted => split <;> rfl
  case pictures =>
    intro frame listed
    split at listed
    · rw [List.mem_singleton.mp listed, synced.upToDate_eq, screen_eq]
      exact depicts_render drawn
    · exact nomatch listed
  case copy =>
    intro clean
    rw [synced clean, screen_eq]
    exact depicts_render drawn

end WindowDisplay

end Chip8
