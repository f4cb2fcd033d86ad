/-
# Frames keep their interval

A display in a window reads its clock to find out whether a frame is due, and once more to stamp
a frame that it shows. Time may pass between the two readings, so the stamp is later than the
reading that admitted the frame, and the next frame is measured from the stamp. What is needed
of the clock is only that it does not run backwards, and this is asked of the readings that a run
has on its tape.

Then the stamps lie at least an interval apart, the first of them behind the opening of the
window, whatever else the display is asked for and however many frames the host refuses. Nor is
a frame lost: one that is presented when it is due is given to the host, once. This second half
does not depend on the clock at all.
-/

import Chip8.Proofs.Window.Frames
import Mathlib.Data.List.Chain
import Mathlib.Data.List.Induction

namespace Chip8

/-! ## Readings and stamps on a tape -/

namespace HostCall

/-- The time that was read with a call. -/
def reading? : HostCall → Option Nat
  | readClock now => some now
  | pump | showFrame .. => none

/-- For each frame among some calls, the time that was read last before it. The first argument
is the time that was read last before the calls. -/
def stamps (latest : Nat) : List HostCall → List Nat
  | [] => []
  | readClock now :: rest => stamps now rest
  | pump :: rest => stamps latest rest
  | showFrame .. :: rest => latest :: stamps latest rest

/-- The stamps of later calls follow those of earlier ones. -/
theorem exists_stamps_append (latest : Nat) (calls more : List HostCall) :
    ∃ before, stamps latest (calls ++ more) = stamps latest calls ++ stamps before more := by
  induction calls generalizing latest with
  | nil => exact ⟨latest, rfl⟩
  | cons call rest ih =>
      cases call with
      | readClock now => exact ih now
      | pump => exact ih latest
      | showFrame pixels shown =>
          obtain ⟨before, stamps_eq⟩ := ih latest
          exact ⟨before, congrArg (latest :: ·) stamps_eq⟩

/-- Each frame has a stamp. -/
theorem length_stamps (latest : Nat) (calls : List HostCall) :
    (stamps latest calls).length = (calls.filterMap frame?).length := by
  induction calls generalizing latest with
  | nil => rfl
  | cons call rest ih =>
      cases call with
      | readClock now => exact ih now
      | pump => exact ih latest
      | showFrame pixels shown => exact congrArg (· + 1) (ih latest)

end HostCall

namespace TapedHost

variable {η : Type}

/-- What was read from the clock, the oldest reading first. -/
def readings (tape : TapedHost η) : List Nat := tape.calls.filterMap HostCall.reading?

/-- The time that was read last before each frame. No frame comes before the first reading, so
it does not matter what is taken for the time before it. -/
def stamps (tape : TapedHost η) : List Nat := HostCall.stamps 0 tape.calls

theorem length_stamps (tape : TapedHost η) : tape.stamps.length = tape.frames.length :=
  HostCall.length_stamps 0 tape.calls

end TapedHost

/-! ## Keeping the interval -/

/-- Times that lie at least an interval apart, each from the next. -/
def Apart (interval : Nat) (times : List Nat) : Prop :=
  times.IsChain fun earlier later => earlier + interval ≤ later

/-- As many intervals fit between the first time and the last as there are later times. -/
theorem Apart.span {interval first last : Nat} {rest : List Nat}
    (apart : Apart interval (first :: rest)) (ends : (first :: rest).getLast? = some last) :
    first + rest.length * interval ≤ last := by
  induction rest generalizing first with
  | nil =>
      obtain rfl := Option.some.inj ends
      simp
  | cons second rest ih =>
      obtain ⟨here, later⟩ := List.isChain_cons_cons.mp apart
      have reached := ih later (by rwa [List.getLast?_cons_cons] at ends)
      rw [List.length_cons, Nat.succ_mul]
      omega

namespace WindowDisplay

variable {η : Type} [Host η] {display : WindowDisplay (TapedHost η)} {created interval : Nat}

/-- The stamps of a display are apart, the last of them is what it measures the next frame from,
and that was read from its clock. -/
structure Paced (created interval : Nat) (display : WindowDisplay (TapedHost η)) : Prop where
  interval_eq : display.refreshInterval = interval
  apart : Apart interval (created :: display.host.stamps)
  latest_eq : (created :: display.host.stamps).getLast? = some display.lastRefresh
  read : display.lastRefresh ∈ display.host.readings

theorem readings_perform (display : WindowDisplay (TapedHost η)) (call : DisplayCall) :
    (call.perform display).host.readings =
      display.host.readings ++ (display.hostCalls call).filterMap HostCall.reading? := by
  rw [TapedHost.readings, calls_perform, List.filterMap_append, TapedHost.readings]

/-- Each frame that is given to the host is stamped with what the display keeps. -/
theorem stamps_perform (display : WindowDisplay (TapedHost η)) (call : DisplayCall) :
    (call.perform display).host.stamps =
      display.host.stamps ++
        if call = .presentFrame ∧ display.isDue = true then [(call.perform display).lastRefresh]
        else [] := by
  rw [TapedHost.stamps, calls_perform]
  obtain ⟨before, stamps_eq⟩ :=
    HostCall.exists_stamps_append 0 display.host.calls (display.hostCalls call)
  rw [stamps_eq, TapedHost.stamps]
  congr 1
  cases call with
  | clearScreen | drawSprite sprite x y => rfl
  | presentFrame =>
      change _ = if _ then [display.presentFrame.1.lastRefresh] else []
      rw [hostCalls]
      cases due : display.isDue with
      | false => rfl
      | true =>
          rw [presentFrame_of_due due, refresh_eq]
          rfl
  | pollInput =>
      rw [hostCalls]
      cases display.pumped <;> rfl

theorem refreshInterval_perform (display : WindowDisplay (TapedHost η)) (call : DisplayCall) :
    (call.perform display).refreshInterval = display.refreshInterval := by
  cases call with
  | clearScreen | pollInput => rfl
  | drawSprite sprite x y => rw [perform_drawSprite]
  | presentFrame =>
      change display.presentFrame.1.refreshInterval = _
      cases due : display.isDue with
      | false =>
          rw [presentFrame_of_early due]
          rfl
      | true =>
          rw [presentFrame_of_due due, refresh_eq]
          rfl

theorem refreshInterval_performAll (display : WindowDisplay (TapedHost η))
    (calls : List DisplayCall) :
    (DisplayCall.performAll display calls).refreshInterval = display.refreshInterval := by
  induction calls generalizing display with
  | nil => rfl
  | cons call rest ih => rw [DisplayCall.performAll_cons, ih, refreshInterval_perform]

/-- Without a frame there is no other stamp. -/
theorem lastRefresh_of_not_shown {call : DisplayCall}
    (skipped : ¬ (call = .presentFrame ∧ display.isDue = true)) :
    (call.perform display).lastRefresh = display.lastRefresh := by
  cases call with
  | clearScreen | pollInput => rfl
  | drawSprite sprite x y => rw [perform_drawSprite]
  | presentFrame =>
      have early : display.isDue = false := Bool.eq_false_iff.mpr fun due => skipped ⟨rfl, due⟩
      change display.presentFrame.1.lastRefresh = _
      rw [presentFrame_of_early early]
      rfl

/-- A frame that is shown was admitted by one reading of the clock and stamped with the next. -/
theorem exists_readings_of_due (due : display.isDue = true) :
    ∃ admitted, display.refreshInterval ≤ admitted - display.lastRefresh ∧
      (DisplayCall.presentFrame.perform display).host.readings =
        display.host.readings ++
          [admitted, (DisplayCall.presentFrame.perform display).lastRefresh] := by
  refine ⟨(Host.readClock display.host).1, of_decide_eq_true due, ?_⟩
  rw [readings_perform]
  congr 1
  change _ = [_, display.presentFrame.1.lastRefresh]
  rw [hostCalls, due, presentFrame_of_due due, refresh_eq]
  rfl

omit [Host η] in
/-- At least an interval has gone by on the clock for each frame. -/
theorem Paced.span (paced : display.Paced created interval)
    (forward : display.host.readings.Pairwise (· ≤ ·)) :
    ∃ latest, display.host.readings.getLast? = some latest ∧
      created + display.host.frames.length * interval ≤ latest := by
  have reached := paced.apart.span paced.latest_eq
  rw [TapedHost.length_stamps] at reached
  have read := paced.read
  rcases List.eq_nil_or_concat' display.host.readings with none_read | ⟨earlier, latest, split⟩
  · rw [none_read] at read
    cases read
  · rw [split] at forward read ⊢
    refine ⟨latest, List.getLast?_concat, Nat.le_trans reached ?_⟩
    rcases List.mem_append.mp read with before | last
    · exact (List.pairwise_append.mp forward).2.2 _ before _ (List.mem_singleton_self _)
    · exact Nat.le_of_eq (List.mem_singleton.mp last)

/-- Every call keeps the interval, as long as the clock does not run backwards. -/
theorem Paced.perform (paced : display.Paced created interval) (call : DisplayCall)
    (forward : (call.perform display).host.readings.Pairwise (· ≤ ·)) :
    (call.perform display).Paced created interval := by
  have stamps_eq := stamps_perform display call
  have interval_eq := (refreshInterval_perform display call).trans paced.interval_eq
  by_cases shown : call = .presentFrame ∧ display.isDue = true
  · obtain ⟨rfl, due⟩ := shown
    obtain ⟨admitted, waited, readings_eq⟩ := exists_readings_of_due due
    rw [if_pos ⟨rfl, due⟩] at stamps_eq
    rw [readings_eq, List.pairwise_append, List.pairwise_pair] at forward
    obtain ⟨-, in_order, onward⟩ := forward
    have behind := onward _ paced.read admitted List.mem_cons_self
    rw [paced.interval_eq] at waited
    refine ⟨interval_eq, ?_, ?_, ?_⟩
    · rw [stamps_eq, ← List.cons_append, Apart, List.isChain_append]
      refine ⟨paced.apart, List.isChain_singleton _, ?_⟩
      intro earlier last later stamp
      rw [paced.latest_eq, Option.mem_some] at last
      rw [List.head?_cons, Option.mem_some] at stamp
      omega
    · rw [stamps_eq, ← List.cons_append, List.getLast?_concat]
    · rw [readings_eq]
      simp
  · have kept := lastRefresh_of_not_shown shown
    rw [if_neg shown, List.append_nil] at stamps_eq
    refine ⟨interval_eq, ?_, ?_, ?_⟩
    · rw [stamps_eq]
      exact paced.apart
    · rw [stamps_eq, kept]
      exact paced.latest_eq
    · rw [readings_perform, kept]
      exact List.mem_append_left _ paced.read

theorem Paced.performAll (paced : display.Paced created interval) (calls : List DisplayCall)
    (forward : (DisplayCall.performAll display calls).host.readings.Pairwise (· ≤ ·)) :
    (DisplayCall.performAll display calls).Paced created interval := by
  induction calls using List.reverseRecOn with
  | nil => exact paced
  | append_singleton calls call ih =>
      rw [DisplayCall.performAll_append] at forward ⊢
      -- What was read before the last call is the beginning of what was read behind it.
      have before : (DisplayCall.performAll display calls).host.readings.Pairwise (· ≤ ·) := by
        have grown := readings_perform (DisplayCall.performAll display calls) call
        change (call.perform (DisplayCall.performAll display calls)).host.readings.Pairwise _
          at forward
        rw [grown, List.pairwise_append] at forward
        exact forward.1
      exact (ih before).perform call forward

/-- A display in a window that has just been opened, with an interval of its own between frames. -/
def openAt (host : η) (refreshRate : UInt32) (interval : Nat) : WindowDisplay η :=
  { (openOn host refreshRate).1 with refreshInterval := interval }

theorem untaped_openAt (host : η) (refreshRate : UInt32) (interval : Nat) :
    (openAt (TapedHost.mk host []) refreshRate interval).untaped =
      openAt host refreshRate interval := rfl

/-- The time at which the window was opened was read from the clock. -/
theorem paced_openAt (host : η) (refreshRate : UInt32) (interval : Nat) :
    (openAt (TapedHost.mk host []) refreshRate interval).Paced (Host.readClock host).1 interval :=
  ⟨rfl, List.isChain_singleton _, rfl, List.mem_singleton_self _⟩

/-- A window is opened, and then any calls are made to its display. If the clock never ran
backwards, the stamps of the frames that were given to the host lie at least an interval apart,
the first of them at least that far from the opening, and so as many intervals went by on the clock
as there were frames. One more frame is given to the host, once, if it is presented when the last
stamp is at least an interval old. Frames count whether the host takes them or not. -/
theorem frames_keep_interval (host : η) (refreshRate : UInt32) (interval : Nat)
    (calls : List DisplayCall) :
    let created := (Host.readClock host).1
    let display :=
      DisplayCall.performAll (openAt (TapedHost.mk host []) refreshRate interval) calls
    let stamps := display.host.stamps
    let frames := display.host.frames
    DisplayCall.performAll (openAt host refreshRate interval) calls = display.untaped ∧
      openAt host refreshRate (RefreshInterval.ofRate refreshRate) = (openOn host refreshRate).1 ∧
      (display.host.readings.Pairwise (· ≤ ·) →
        (created :: stamps).IsChain (fun earlier later => earlier + interval ≤ later) ∧
        stamps.length = frames.length ∧
        (created :: stamps).getLast? = some display.lastRefresh ∧
        ∃ latest, display.host.readings.getLast? = some latest ∧
          created + frames.length * interval ≤ latest) ∧
      (interval ≤ (Host.readClock display.host).1 - display.lastRefresh →
        ∃ frame, (DisplayCall.presentFrame.perform display).host.frames = frames ++ [frame]) := by
  intro created display stamps frames
  refine ⟨?untaped, rfl, ?apart, ?due⟩
  case untaped =>
    rw [← untaped_openAt]
    exact untapedHom.performAll _ calls
  case apart =>
    intro forward
    have paced := (paced_openAt host refreshRate interval).performAll calls forward
    exact ⟨paced.apart, display.host.length_stamps, paced.latest_eq, paced.span forward⟩
  case due =>
    intro waited
    have due : display.isDue = true := by
      apply decide_eq_true
      rw [refreshInterval_performAll]
      exact waited
    refine ⟨display.upToDate, ?_⟩
    rw [frames_perform, if_pos ⟨rfl, due⟩]

end WindowDisplay

/-- A host whose clock moves on with each reading, and which refuses every frame. -/
structure RestlessHost where
  /-- The time. -/
  now : Nat
  /-- How far the clock moves. -/
  pace : Nat

instance : Host RestlessHost where
  readClock host := (host.now, { host with now := host.now + host.pace })
  pump host := host
  showFrame host _ := (host, false)
  pressedKeys _ := []
  releasedKeys _ := []
  isOpen _ := true
  isKeyDown _ _ := false

namespace WindowDisplay

/-- Two of six frames are given to a host, sixteen ticks of its clock apart, which refuses both. -/
theorem frames_keep_interval_of_refused :
    let opened := openAt (TapedHost.mk (RestlessHost.mk 0 4) []) 60 10
    let calls : List DisplayCall := [.presentFrame, .pollInput, .presentFrame, .presentFrame,
      .clearScreen, .presentFrame, .presentFrame]
    let early := DisplayCall.performAll opened calls
    let late := DisplayCall.performAll opened (calls ++ [.presentFrame])
    late.host.stamps = [16, 32] ∧
      (0 :: late.host.stamps).IsChain (fun earlier later => earlier + 10 ≤ later) ∧
      ∃ frame, (DisplayCall.presentFrame.perform early).host.frames =
        early.host.frames ++ [frame] := by
  intro opened calls early late
  obtain ⟨-, -, apart, -⟩ :=
    frames_keep_interval (RestlessHost.mk 0 4) 60 10 (calls ++ [.presentFrame])
  obtain ⟨-, -, -, due⟩ := frames_keep_interval (RestlessHost.mk 0 4) 60 10 calls
  have stamped : late.host.stamps = [16, 32] := by decide +kernel
  exact ⟨stamped, (apart (by decide +kernel)).1, due (by decide +kernel)⟩

end WindowDisplay

end Chip8
