/-
# Calls to the display and the buzzer

How often a machine shows a frame, polls for keys and calls its buzzer is counted with tapes
around its display and its buzzer. `untaped` takes the tapes off again, and a machine runs the
same with and without them.

In a tick a machine only draws. A frame is shown, and a poll is made, once behind each tick
that succeeds, and the buzzer is called once in each cycle, whether it ticks or not.
-/

import Chip8.Proofs.Machine.Map

namespace Chip8

/-- Whether an answer says that a cycle ran an instruction. -/
def Answer.ran : Answer → Bool
  | .cycled (.ok true) => true
  | _ => false

/-- Whether a call shows the screen or takes in keys. -/
def DisplayCall.OfRefresh (call : DisplayCall) : Prop := call = .presentFrame ∨ call = .pollInput

namespace Machine

variable {τ δ ρ β : Type}

/-- The machine with empty tapes around its display and its buzzer. -/
def taped (machine : Machine τ δ ρ β) : Machine τ (Taped δ) ρ (TapedBuzzer β) :=
  { machine with display := ⟨machine.display, []⟩, buzzer := ⟨machine.buzzer, []⟩ }

/-- The machine without the tapes. -/
def untaped (machine : Machine τ (Taped δ) ρ (TapedBuzzer β)) : Machine τ δ ρ β :=
  { machine with display := machine.display.display, buzzer := machine.buzzer.buzzer }

/-! ## Tapes change nothing else -/

section Untaped

variable [Display δ] [ScreenDisplay δ] [Seconds τ] [RandomSource ρ] [Buzzer β]

theorem run_untaped (machine : Machine τ (Taped δ) ρ (TapedBuzzer β)) (times : List τ) :
    machine.untaped.run (times.map .cycle) =
      ((machine.run (times.map .cycle)).1.untaped, (machine.run (times.map .cycle)).2) :=
  run_map Taped.displayHom TapedBuzzer.buzzerHom machine times

end Untaped

/-! ## Counting -/

section Count

variable [Display δ] [ScreenDisplay δ] [Seconds τ] [RandomSource ρ]
variable {machine : Machine τ (Taped δ) ρ (TapedBuzzer β)}

/-- A tick makes no call but to draw. -/
theorem count_tick {call : DisplayCall} (ofRefresh : call.OfRefresh) :
    machine.tick.1.display.calls.count call = machine.display.calls.count call := by
  refine tick_preserves_display (fun tape : Taped δ => tape.calls.count call) ?_ ?_ machine
  · intro tape
    have cleared : (Display.clearScreen tape).calls = tape.calls ++ [.clearScreen] := rfl
    rcases ofRefresh with rfl | rfl <;> simp [cleared]
  · intro tape sprite x y
    rcases ofRefresh with rfl | rfl <;> simp [Taped.drawn_eq]

variable [Buzzer β]

/-- A cycle shows a frame and polls if it ran an instruction, and calls the buzzer once. -/
theorem count_cycle (machine : Machine τ (Taped δ) ρ (TapedBuzzer β)) (elapsed : τ) :
    (∀ call : DisplayCall, call.OfRefresh →
      (machine.cycle elapsed).1.display.calls.count call =
        machine.display.calls.count call + (Answer.cycled (machine.cycle elapsed).2).ran.toNat) ∧
    (machine.cycle elapsed).1.buzzer.requests.length = machine.buzzer.requests.length + 1 := by
  refine ⟨?_, by rw [buzzer_cycle]; exact List.length_append⟩
  intro call ofRefresh
  cases due : machine.isEarly elapsed with
  | true =>
      rw [cycle_of_early due]
      rfl
  | false =>
      have ticked : (machine.clocked elapsed).tick.1.display.calls.count call =
          machine.display.calls.count call := count_tick ofRefresh
      cases outcome : (machine.clocked elapsed).tick.2 with
      | error stop =>
          rw [cycle_of_stop due outcome]
          exact ticked
      | ok instruction =>
          rw [cycle_of_ok due outcome]
          have calls : (machine.clocked elapsed).tick.1.refresh.display.calls =
              (machine.clocked elapsed).tick.1.display.calls ++ [.presentFrame] ++
                [.pollInput] := rfl
          rw [calls, List.append_assoc, List.count_append, ticked]
          rcases ofRefresh with rfl | rfl <;> rfl

theorem count_run (machine : Machine τ (Taped δ) ρ (TapedBuzzer β)) (times : List τ) :
    (∀ call : DisplayCall, call.OfRefresh →
      (machine.run (times.map .cycle)).1.display.calls.count call =
        machine.display.calls.count call +
          (machine.run (times.map .cycle)).2.countP Answer.ran) ∧
    (machine.run (times.map .cycle)).1.buzzer.requests.length =
      machine.buzzer.requests.length + times.length := by
  induction times generalizing machine with
  | nil => exact ⟨fun _ _ => rfl, rfl⟩
  | cons elapsed rest ih =>
      obtain ⟨calls, requests⟩ := machine.count_cycle elapsed
      obtain ⟨more, moreRequests⟩ := ih (machine.cycle elapsed).1
      rw [run_cycles_cons]
      constructor
      · intro call ofRefresh
        rw [more call ofRefresh, calls call ofRefresh, List.countP_cons, Nat.add_assoc,
          Nat.add_comm (Bool.toNat _)]
        cases (Answer.cycled (machine.cycle elapsed).2).ran <;> rfl
      · rw [moreRequests, requests, List.length_cons, Nat.add_assoc, Nat.add_comm 1]

end Count

end Machine

end Chip8
