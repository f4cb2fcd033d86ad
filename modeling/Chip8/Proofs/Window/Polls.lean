/-
# Every poll takes in one batch of keys

A frame that is shown takes in events, and so does a poll, and whether the frame was shown is
up to the clock. A batch would be lost if both did, and seen twice if neither did. What
prevents this is that a display remembers whether it showed a frame since the last poll.

A host follows a script of keys if it shows every frame, and if the keys that it reports are
those of the batch that it took in last. The order in which a machine calls its display is
that of `Round`: some drawing, a frame, perhaps more drawing, and a poll. Behind each round
the host has taken in one more batch, and this is the batch that the keypad was given.
-/

import Chip8.Host.Script
import Chip8.Proofs.Window.Calls
import Mathlib.Data.List.Induction

namespace Chip8

/-! ## Hosts that follow a script of keys -/

namespace Host

variable {η : Type} [Host η]

/-- What becomes of a host that is asked for one thing after another, and how many batches of
events it has taken in meanwhile. A frame counts if it is shown. -/
inductive Served (first : η) : Nat → η → Prop where
  | start : Served first 0 first
  | readClock {count : Nat} {host : η} (served : Served first count host) :
      Served first count (readClock host).2
  | pump {count : Nat} {host : η} (served : Served first count host) :
      Served first (count + 1) (pump host)
  | showFrame {count : Nat} {host : η} (served : Served first count host) (pixels : PixelBuffer)
      (shown : (showFrame host pixels).2 = true) :
      Served first (count + 1) (showFrame host pixels).1

/-- A host shows every frame, and the keys that it reports are those of a script, one batch
each time that events are taken in. -/
structure FollowsScript (first : η) (script : Nat → KeyBatch) : Prop where
  shown : ∀ {count : Nat} {host : η}, Served first count host →
    ∀ pixels, (showFrame host pixels).2 = true
  keys_eq : ∀ {count : Nat} {host : η}, Served first (count + 1) host →
    (⟨pressedKeys host, releasedKeys host⟩ : KeyBatch) = script count

end Host

/-- Whether events are taken in with a call. -/
def HostCall.pumps : HostCall → Bool
  | .readClock _ => false
  | .pump => true
  | .showFrame _ shown => shown

namespace TapedHost

variable {η : Type} [Host η] {first : η} {count : Nat} {tape : TapedHost η}

/-- Behind a tape, a host is asked for the same. -/
theorem served_host (served : Host.Served (TapedHost.mk first []) count tape) :
    Host.Served first count tape.host := by
  induction served with
  | start => exact .start
  | readClock _ ih => exact ih.readClock
  | pump _ ih => exact ih.pump
  | showFrame _ pixels shown ih => exact ih.showFrame pixels shown

/-- The batches that a host has taken in are counted on the tape. -/
theorem countP_pumps (served : Host.Served (TapedHost.mk first []) count tape) :
    tape.calls.countP HostCall.pumps = count := by
  induction served with
  | start => rfl
  | @readClock count tape _ ih =>
      change (tape.calls ++ [_]).countP _ = _
      rw [List.countP_append, ih]
      rfl
  | @pump count tape _ ih =>
      change (tape.calls ++ [_]).countP _ = _
      rw [List.countP_append, ih]
      rfl
  | @showFrame count tape _ pixels shown ih =>
      change (tape.calls ++ [HostCall.showFrame pixels (Host.showFrame tape pixels).2]).countP _ = _
      rw [List.countP_append, ih, shown]
      rfl

/-- A tape does not keep a host from following its script. -/
theorem followsScript {script : Nat → KeyBatch} (follows : Host.FollowsScript first script) :
    Host.FollowsScript (TapedHost.mk first []) script :=
  ⟨fun served => follows.shown (served_host served),
    fun served => follows.keys_eq (served_host served)⟩

end TapedHost

/-! ## Rounds -/

/-- The calls up to a poll, in the order in which a machine makes them. -/
structure Round where
  /-- What is drawn before the frame. -/
  drawn : List DisplayCall
  /-- What is drawn between the frame and the poll. -/
  late : List DisplayCall
  drawn_draws : ∀ call ∈ drawn, call.Draws
  late_draws : ∀ call ∈ late, call.Draws

/-- All calls of a round. -/
def Round.calls (round : Round) : List DisplayCall :=
  round.drawn ++ .presentFrame :: round.late ++ [.pollInput]

namespace WindowDisplay

variable {η : Type} [Host η] {first : η} {polls : Nat} {display : WindowDisplay η}
  {script : Nat → KeyBatch}

/-- Drawing leaves the host, the keys and the memory of the last frame alone. -/
theorem performAll_of_draws (display : WindowDisplay η) {calls : List DisplayCall}
    (draws : ∀ call ∈ calls, call.Draws) :
    (DisplayCall.performAll display calls).host = display.host ∧
      (DisplayCall.performAll display calls).keypad = display.keypad ∧
      (DisplayCall.performAll display calls).pumped = display.pumped := by
  induction calls generalizing display with
  | nil => exact ⟨rfl, rfl, rfl⟩
  | cons call rest ih =>
      obtain ⟨here, rest_draws⟩ := List.forall_mem_cons.mp draws
      rw [DisplayCall.performAll_cons, perform_of_draws here]
      exact ih _ rest_draws

/-- The host behind a display has taken in a batch for each poll, and one more if a frame was
shown since the last of them. -/
def InPhase (first : η) (polls : Nat) (display : WindowDisplay η) : Prop :=
  Host.Served first (polls + display.pumped.toNat) display.host

/-- Nothing was taken in yet. -/
theorem inPhase_openOn (host : η) (refreshRate : UInt32) :
    (openOn host refreshRate).1.InPhase host 0 :=
  Host.Served.start.readClock

/-- A frame behind a poll is skipped, or shown and remembered. -/
theorem InPhase.presentFrame (inPhase : display.InPhase first polls)
    (unpumped : display.pumped = false) (follows : Host.FollowsScript first script) :
    display.presentFrame.1.InPhase first polls := by
  have served : Host.Served first polls display.host := by
    rw [InPhase, unpumped] at inPhase
    exact inPhase
  cases due : display.isDue with
  | false =>
      rw [presentFrame_of_early due, InPhase]
      change Host.Served first (polls + display.pumped.toNat) _
      rw [unpumped]
      exact served.readClock
  | true =>
      rw [presentFrame_of_due due, refresh_eq]
      exact served.readClock.readClock.showFrame _ (follows.shown served.readClock.readClock _)

/-- A poll takes events in unless the frame before it did. -/
theorem InPhase.pollInput (inPhase : display.InPhase first polls)
    (follows : Host.FollowsScript first script) :
    display.pollInput.InPhase first (polls + 1) ∧ display.pollInput.pumped = false ∧
      display.pollInput.keypad = display.keypad.update (script polls) := by
  have served : Host.Served first (polls + 1) display.pollInput.host := by
    rw [InPhase] at inPhase
    unfold WindowDisplay.pollInput
    cases pumped : display.pumped with
    | true =>
        rw [pumped] at inPhase
        exact inPhase
    | false =>
        rw [pumped] at inPhase
        exact inPhase.pump
  refine ⟨served, rfl, ?_⟩
  rw [← follows.keys_eq served]
  rfl

/-- Behind a frame and a poll there has been one more batch, whether the frame was shown or
skipped. -/
theorem InPhase.refresh (inPhase : display.InPhase first polls)
    (unpumped : display.pumped = false) (follows : Host.FollowsScript first script) :
    display.presentFrame.1.pollInput.InPhase first (polls + 1) ∧
      display.presentFrame.1.pollInput.pumped = false ∧
      display.presentFrame.1.pollInput.keypad = display.keypad.update (script polls) := by
  have polled := (inPhase.presentFrame unpumped follows).pollInput follows
  rw [display.presentFrame_keeps.2] at polled
  exact polled

/-- Behind a round, the display is where it was behind the round before, one batch further. -/
theorem InPhase.round (inPhase : display.InPhase first polls) (unpumped : display.pumped = false)
    (follows : Host.FollowsScript first script) (round : Round) :
    (DisplayCall.performAll display round.calls).InPhase first (polls + 1) ∧
      (DisplayCall.performAll display round.calls).pumped = false ∧
      (DisplayCall.performAll display round.calls).keypad =
        display.keypad.update (script polls) := by
  obtain ⟨host_eq, keypad_eq, pumped_eq⟩ := performAll_of_draws display round.drawn_draws
  let drawn := DisplayCall.performAll display round.drawn
  obtain ⟨late_host_eq, late_keypad_eq, late_pumped_eq⟩ :=
    performAll_of_draws drawn.presentFrame.1 round.late_draws
  have drawn_inPhase : drawn.InPhase first polls := by
    rw [InPhase, host_eq, pumped_eq]
    exact inPhase
  have shown := drawn_inPhase.presentFrame (pumped_eq.trans unpumped) follows
  have late_inPhase :
      (DisplayCall.performAll drawn.presentFrame.1 round.late).InPhase first polls := by
    rw [InPhase, late_host_eq, late_pumped_eq]
    exact shown
  have polled := late_inPhase.pollInput follows
  rw [late_keypad_eq, drawn.presentFrame_keeps.2, keypad_eq] at polled
  have performed : DisplayCall.performAll display round.calls =
      (DisplayCall.performAll drawn.presentFrame.1 round.late).pollInput := by
    rw [Round.calls, DisplayCall.performAll_append, DisplayCall.performAll_append]
    rfl
  rw [performed]
  exact polled

/-- The display behind some rounds since its window was opened. -/
def behind (host : η) (refreshRate : UInt32) (rounds : List Round) : WindowDisplay η :=
  DisplayCall.performAll (openOn host refreshRate).1 (rounds.flatMap Round.calls)

theorem behind_concat (host : η) (refreshRate : UInt32) (rounds : List Round) (next : Round) :
    behind host refreshRate (rounds ++ [next]) =
      DisplayCall.performAll (behind host refreshRate rounds) next.calls := by
  rw [behind, List.flatMap_append, DisplayCall.performAll_append, List.flatMap_singleton]
  rfl

/-- Behind any rounds, a display has been given as many batches. -/
theorem inPhase_behind (follows : Host.FollowsScript first script) (refreshRate : UInt32)
    (rounds : List Round) :
    (behind first refreshRate rounds).InPhase first rounds.length ∧
      (behind first refreshRate rounds).pumped = false := by
  induction rounds using List.reverseRecOn with
  | nil => exact ⟨inPhase_openOn first refreshRate, rfl⟩
  | append_singleton rounds next ih =>
      obtain ⟨inPhase, unpumped⟩ := ih
      obtain ⟨inPhase', unpumped', -⟩ := inPhase.round unpumped follows next
      rw [behind_concat, List.length_append]
      exact ⟨inPhase', unpumped'⟩

/-- After some rounds, one more lets the host take in events once, counted on a tape, and gives
the keypad the batch of the script that is next. -/
structure OneBatch (host : η) (script : Nat → KeyBatch) (refreshRate : UInt32)
    (rounds : List Round) (next : Round) : Prop where
  untaped_eq : behind host refreshRate (rounds ++ [next]) =
    (behind (TapedHost.mk host []) refreshRate (rounds ++ [next])).untaped
  pumped_once : ∃ asked,
    (behind (TapedHost.mk host []) refreshRate (rounds ++ [next])).host.calls =
        (behind (TapedHost.mk host []) refreshRate rounds).host.calls ++ asked ∧
      asked.countP HostCall.pumps = 1
  keypad_eq : (behind host refreshRate (rounds ++ [next])).keypad =
    (behind host refreshRate rounds).keypad.update (script rounds.length)

theorem untaped_behind (host : η) (refreshRate : UInt32) (rounds : List Round) :
    (behind (TapedHost.mk host []) refreshRate rounds).untaped =
      behind host refreshRate rounds := by
  rw [behind, ← untapedHom.performAll]
  rfl

/-- The tape shows as many batches as there were rounds. -/
theorem countP_pumps_behind (follows : Host.FollowsScript first script) (refreshRate : UInt32)
    (rounds : List Round) :
    (behind (TapedHost.mk first []) refreshRate rounds).host.calls.countP HostCall.pumps =
      rounds.length := by
  obtain ⟨inPhase, unpumped⟩ :=
    inPhase_behind (TapedHost.followsScript follows) refreshRate rounds
  rw [InPhase, unpumped] at inPhase
  exact TapedHost.countP_pumps inPhase

theorem oneBatch (follows : Host.FollowsScript first script) (refreshRate : UInt32)
    (rounds : List Round) (next : Round) : OneBatch first script refreshRate rounds next := by
  obtain ⟨inPhase, unpumped⟩ := inPhase_behind follows refreshRate rounds
  refine ⟨(untaped_behind _ _ _).symm, ?_, ?_⟩
  · have before := countP_pumps_behind follows refreshRate rounds
    have after := countP_pumps_behind follows refreshRate (rounds ++ [next])
    rw [behind_concat] at after ⊢
    obtain ⟨asked, calls_eq⟩ := exists_calls_performAll
      (behind (TapedHost.mk first []) refreshRate rounds) next.calls
    rw [calls_eq, List.countP_append, before, List.length_append, Nat.add_left_cancel_iff] at after
    exact ⟨asked, calls_eq, after⟩
  · rw [behind_concat]
    exact (inPhase.round unpumped follows next).2.2

end WindowDisplay

/-! ## Scripted hosts -/

namespace ScriptedHost

/-- All of a host that decides which keys it will report. -/
def keyState (host : ScriptedHost) :
    List KeyEvents × List HostKey × List HostKey × List HostKey :=
  (host.waiting, host.held, host.pressed, host.released)

theorem keyState_takeEvents {host other : ScriptedHost} (same : host.keyState = other.keyState) :
    host.takeEvents.keyState = other.takeEvents.keyState := by
  simp only [keyState, Prod.mk.injEq] at same
  obtain ⟨waiting_eq, held_eq, -, -⟩ := same
  simp only [takeEvents, waiting_eq, held_eq]
  cases other.waiting <;> rfl

theorem refused_takeEvents (host : ScriptedHost) : host.takeEvents.refused = host.refused := by
  unfold takeEvents
  split <;> rfl

/-- A host that refuses no frame shows it and takes in events. -/
theorem showFrame_of_willing {host : ScriptedHost} (willing : host.refused = 0)
    (pixels : PixelBuffer) :
    ∃ event, host.showFrame pixels =
      (({ host with shown := some pixels }.note event).takeEvents, true) := by
  rw [showFrame, willing]
  exact ⟨_, rfl⟩

/-- The batch that a host brings behind so many others, if no more events arrive. -/
def batch (host : ScriptedHost) (count : Nat) : KeyBatch :=
  let later := Nat.repeat takeEvents (count + 1) host
  ⟨later.pressed, later.released⟩

theorem keyState_of_served {host later : ScriptedHost} {count : Nat}
    (willing : host.refused = 0) (served : Host.Served host count later) :
    later.refused = 0 ∧ later.keyState = (Nat.repeat takeEvents count host).keyState := by
  induction served with
  | start => exact ⟨willing, rfl⟩
  | readClock _ ih => exact ih
  | pump _ ih =>
      obtain ⟨refused_eq, keys_eq⟩ := ih
      exact ⟨(refused_takeEvents _).trans refused_eq, keyState_takeEvents keys_eq⟩
  | @showFrame count later _ pixels shown ih =>
      obtain ⟨refused_eq, keys_eq⟩ := ih
      obtain ⟨event, taken⟩ := showFrame_of_willing refused_eq pixels
      change (later.showFrame pixels).1.refused = 0 ∧ (later.showFrame pixels).1.keyState = _
      rw [taken]
      exact ⟨(refused_takeEvents _).trans refused_eq, keyState_takeEvents keys_eq⟩

/-- Until more events arrive, a host that refuses no frame follows the script of the events that
wait for it. -/
theorem followsScript {host : ScriptedHost} (willing : host.refused = 0) :
    Host.FollowsScript host host.batch := by
  constructor
  · intro count later served pixels
    obtain ⟨event, taken⟩ := showFrame_of_willing (keyState_of_served willing served).1 pixels
    exact congrArg Prod.snd taken
  · intro count later served
    have same := (keyState_of_served willing served).2
    simp only [keyState, Prod.mk.injEq] at same
    obtain ⟨-, -, pressed_eq, released_eq⟩ := same
    exact congrArg₂ KeyBatch.mk pressed_eq released_eq

end ScriptedHost

end Chip8
