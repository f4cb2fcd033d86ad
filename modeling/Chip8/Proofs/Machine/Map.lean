/-
# Machines without their tapes

Taking a tape off is a map of displays or of buzzers that commutes with every call. Such a map
commutes with everything that a machine does in a run of cycles, and the answers are the same.
So what is counted on a machine with tapes is what the machine without them does.
-/

import Chip8.Proofs.Machine.Run
import Chip8.Proofs.Tape

namespace Chip8

variable {τ δ δ' ρ β β' : Type}

namespace Machine

variable {seen : δ → δ'} {heard : β → β'}

/-- The machine in other surroundings. -/
def map (seen : δ → δ') (heard : β → β') (machine : Machine τ δ ρ β) : Machine τ δ' ρ β' :=
  { machine with display := seen machine.display, buzzer := heard machine.buzzer }

theorem stop?_map {machine : Machine τ δ ρ β} {instruction : Instruction} :
    (machine.map seen heard).stop? instruction = machine.stop? instruction := by
  cases instruction <;> rfl

variable [Display δ] [ScreenDisplay δ] [Display δ'] [ScreenDisplay δ']

theorem await_map (seenHom : DisplayHom seen) (machine : Machine τ δ ρ β) (x : UInt8) :
    (machine.map seen heard).await x = (machine.await x).map seen heard := by
  apply await_related fun after' after => after' = after.map seen heard
  · rfl
  · exact seenHom.keypad_eq machine.display
  · rfl
  · exact fun _ => rfl
  · exact fun _ => rfl

variable [Seconds τ] [RandomSource ρ]

theorem effect_map (seenHom : DisplayHom seen) (machine : Machine τ δ ρ β)
    (instruction : Instruction) :
    (machine.map seen heard).effect instruction = (machine.effect instruction).map seen heard := by
  cases instruction with
  | clearScreen =>
      simp only [effect, map, seenHom.clearScreen_eq]
  | draw x y height =>
      simp only [effect, drawn, map, seenHom.drawn_eq]
      rfl
  | skipIfKey x | skipUnlessKey x =>
      simp only [effect, keyDown, map, seenHom.keypad_eq]
  | awaitKey x => exact await_map seenHom machine x
  | _ => rfl

theorem tick_map (seenHom : DisplayHom seen) (machine : Machine τ δ ρ β) :
    (machine.map seen heard).tick.1 = machine.tick.1.map seen heard ∧
      (machine.map seen heard).tick.2 = machine.tick.2 := by
  apply tick_related fun after after' => after' = after.map seen heard
  · rfl
  · rfl
  · exact fun _ => rfl
  · exact fun _ => stop?_map
  · exact fun _ => rfl
  · exact fun _ _ => effect_map seenHom machine.fetched _

variable [Buzzer β] [Buzzer β']

omit [ScreenDisplay δ] [ScreenDisplay δ'] [Display δ] [Display δ'] [RandomSource ρ] in
theorem passTime_map (heardHom : BuzzerHom heard) (machine : Machine τ δ ρ β) (elapsed : τ) :
    (machine.map seen heard).passTime elapsed = (machine.passTime elapsed).map seen heard := by
  simp only [passTime, map, heardHom.setActive_eq]
  rfl

omit [Seconds τ] [RandomSource ρ] [Buzzer β] [Buzzer β'] in
theorem refresh_map (seenHom : DisplayHom seen) (machine : Machine τ δ ρ β) :
    (machine.map seen heard).refresh = machine.refresh.map seen heard := by
  simp only [refresh, map, seenHom.presentFrame_eq, Prod.map, seenHom.pollInput_eq]
  rfl

theorem cycle_map (seenHom : DisplayHom seen) (heardHom : BuzzerHom heard)
    (machine : Machine τ δ ρ β) (elapsed : τ) :
    ((machine.map seen heard).cycle elapsed).1 = (machine.cycle elapsed).1.map seen heard ∧
      ((machine.map seen heard).cycle elapsed).2 = (machine.cycle elapsed).2 := by
  have passed : (machine.map seen heard).passTime elapsed =
      (machine.passTime elapsed).map seen heard := passTime_map heardHom machine elapsed
  apply cycle_related fun after after' => after' = after.map seen heard
  · rfl
  · exact passed
  · intro _
    have clocked : (machine.map seen heard).clocked elapsed =
        (machine.clocked elapsed).map seen heard := by
      rw [Machine.clocked, passed]
      rfl
    rw [clocked]
    exact tick_map seenHom (machine.clocked elapsed)
  · rintro after _ rfl
    exact refresh_map seenHom after

theorem run_map (seenHom : DisplayHom seen) (heardHom : BuzzerHom heard)
    (machine : Machine τ δ ρ β) (times : List τ) :
    (machine.map seen heard).run (times.map .cycle) =
      ((machine.run (times.map .cycle)).1.map seen heard,
        (machine.run (times.map .cycle)).2) := by
  induction times generalizing machine with
  | nil => rfl
  | cons elapsed rest ih =>
      obtain ⟨cycled, answer_eq⟩ := cycle_map seenHom heardHom machine elapsed
      rw [run_cycles_cons, cycled, ih, answer_eq, run_cycles_cons]

end Machine

end Chip8
