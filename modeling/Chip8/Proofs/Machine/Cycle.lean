/-
# One cycle

A cycle lets time pass, and then either nothing else happens or one tick does. Around
the tick it touches only what surrounds the program: the timers and the buzzer, what is
shown and which keys are down, the time that is left, and the journal. `within` changes
just that, so whatever says nothing about the surroundings survives the passing of
time and the refreshing of the screen.
-/

import Chip8.Proofs.Machine.Tick

namespace Chip8.Machine

variable {τ δ ρ β : Type}

/-! ## Surroundings -/

/-- The parts of a machine that change around its ticks. -/
structure Surroundings (τ δ β : Type) where
  /-- The timer that a program can read. -/
  delay : Timer τ
  /-- The timer that keeps the buzzer on. -/
  sound : Timer τ
  /-- The screen and the keys. -/
  display : δ
  /-- What sounds while the sound timer runs. -/
  buzzer : β
  /-- The time that has not been spent on an instruction. -/
  backlog : τ
  /-- What has been reported. -/
  journal : Array LogRecord

/-- What surrounds the program of a machine. -/
def surroundings (machine : Machine τ δ ρ β) : Surroundings τ δ β where
  delay := machine.registers.delay
  sound := machine.registers.sound
  display := machine.display
  buzzer := machine.buzzer
  backlog := machine.backlog
  journal := machine.journal

/-- The same machine in other surroundings. -/
def within (machine : Machine τ δ ρ β) (around : Surroundings τ δ β) : Machine τ δ ρ β :=
  { machine with
    registers := { machine.registers with delay := around.delay, sound := around.sound }
    display := around.display
    buzzer := around.buzzer
    backlog := around.backlog
    journal := around.journal }

variable {machine : Machine τ δ ρ β}

theorem Consistent.within (consistent : machine.Consistent) (around : Surroundings τ δ β) :
    (machine.within around).Consistent :=
  ⟨consistent.depth_eq, consistent.latch_lt⟩

theorem refresh_eq_within [Display δ] (machine : Machine τ δ ρ β) :
    machine.refresh = machine.within machine.refresh.surroundings := rfl

variable [Seconds τ] [Buzzer β]

theorem passTime_eq_within (machine : Machine τ δ ρ β) (elapsed : τ) :
    machine.passTime elapsed = machine.within (machine.passTime elapsed).surroundings := rfl

/-- The machine for which time has passed and has been spent on one instruction. -/
def clocked (machine : Machine τ δ ρ β) (elapsed : τ) : Machine τ δ ρ β :=
  let passed := machine.passTime elapsed
  { passed with backlog := passed.backlog - passed.period }

theorem clocked_eq_within (machine : Machine τ δ ρ β) (elapsed : τ) :
    machine.clocked elapsed = machine.within (machine.clocked elapsed).surroundings := rfl

/-! ## The three ways in which a cycle ends -/

/-- Whether a whole period has not yet gone by after some more time. -/
def isEarly (machine : Machine τ δ ρ β) (elapsed : τ) : Bool :=
  Seconds.less (machine.backlog + elapsed) machine.period

variable [Display δ] [RandomSource ρ] {elapsed : τ}

/-- Too early for an instruction, a cycle only lets time pass. -/
theorem cycle_of_early (early : machine.isEarly elapsed = true) :
    machine.cycle elapsed = (machine.passTime elapsed, .ok false) :=
  if_pos early

/-- Once a period has gone by, a cycle ticks, and looks at what came of it. -/
theorem cycle_of_due (due : machine.isEarly elapsed = false) :
    machine.cycle elapsed =
      match (machine.clocked elapsed).tick with
      | (after, .error stop) => (after, .error stop)
      | (after, .ok _) => (after.refresh, .ok true) := by
  have late : ¬ Seconds.less (machine.passTime elapsed).backlog
      (machine.passTime elapsed).period = true := by
    rw [Bool.not_eq_true]
    exact due
  exact if_neg late

theorem cycle_of_stop {stop : Stop} (due : machine.isEarly elapsed = false)
    (stopped : (machine.clocked elapsed).tick.2 = .error stop) :
    machine.cycle elapsed = ((machine.clocked elapsed).tick.1, .error stop) := by
  rw [cycle_of_due due]
  rcases ticked : (machine.clocked elapsed).tick with ⟨after, answer⟩
  rw [ticked] at stopped
  subst stopped
  rfl

theorem cycle_of_ok {instruction : Instruction} (due : machine.isEarly elapsed = false)
    (executed : (machine.clocked elapsed).tick.2 = .ok instruction) :
    machine.cycle elapsed = ((machine.clocked elapsed).tick.1.refresh, .ok true) := by
  rw [cycle_of_due due]
  rcases ticked : (machine.clocked elapsed).tick with ⟨after, answer⟩
  rw [ticked] at executed
  subst executed
  rfl

/-- A cycle makes one request to the buzzer, when time has passed for the sound timer and before
anything is executed. -/
theorem buzzer_cycle [ScreenDisplay δ] (machine : Machine τ δ ρ β) (elapsed : τ) :
    (machine.cycle elapsed).1.buzzer =
      (Buzzer.setActive machine.buzzer (machine.registers.sound.decay elapsed).isActive).1 := by
  have asked : (machine.clocked elapsed).tick.1.buzzer = (machine.passTime elapsed).buzzer :=
    (machine.clocked elapsed).tick_leaves.1
  cases due : machine.isEarly elapsed with
  | true =>
      rw [cycle_of_early due]
      rfl
  | false =>
      cases outcome : (machine.clocked elapsed).tick.2 with
      | error stop =>
          rw [cycle_of_stop due outcome]
          exact asked
      | ok instruction =>
          rw [cycle_of_ok due outcome]
          exact asked

/-- Two machines of which the same can be said behind a cycle, if it can be said when time has
passed, behind a tick, and behind the refreshing of the screen. -/
theorem cycle_related {τ' δ' ρ' β' : Type} [Seconds τ'] [Buzzer β'] [Display δ']
    [RandomSource ρ'] (related : Machine τ δ ρ β → Machine τ' δ' ρ' β' → Prop)
    {first : Machine τ δ ρ β} {second : Machine τ' δ' ρ' β'} {elapsed' : τ'}
    (early_eq : second.isEarly elapsed' = first.isEarly elapsed)
    (passed : related (first.passTime elapsed) (second.passTime elapsed'))
    (ticked : first.isEarly elapsed = false →
      related (first.clocked elapsed).tick.1 (second.clocked elapsed').tick.1 ∧
        (second.clocked elapsed').tick.2 = (first.clocked elapsed).tick.2)
    (refreshed : ∀ {after after'}, related after after' → related after.refresh after'.refresh) :
    related (first.cycle elapsed).1 (second.cycle elapsed').1 ∧
      (second.cycle elapsed').2 = (first.cycle elapsed).2 := by
  cases due : first.isEarly elapsed with
  | true =>
      rw [cycle_of_early due, cycle_of_early (early_eq.trans due)]
      exact ⟨passed, rfl⟩
  | false =>
      obtain ⟨after, answer_eq⟩ := ticked due
      have due' := early_eq.trans due
      cases outcome : (first.clocked elapsed).tick.2 with
      | error stop =>
          rw [cycle_of_stop due outcome, cycle_of_stop due' (answer_eq.trans outcome)]
          exact ⟨after, rfl⟩
      | ok instruction =>
          rw [cycle_of_ok due outcome, cycle_of_ok due' (answer_eq.trans outcome)]
          exact ⟨refreshed after, rfl⟩

/-- What survives ticks and does not depend on the surroundings survives cycles. -/
theorem cycle_induction (holds : Machine τ δ ρ β → Prop)
    (tick : ∀ machine, holds machine → holds machine.tick.1)
    (within : ∀ machine around, holds machine → holds (machine.within around))
    (machine : Machine τ δ ρ β) (elapsed : τ) (before : holds machine) :
    holds (machine.cycle elapsed).1 := by
  cases due : machine.isEarly elapsed with
  | true =>
      rw [cycle_of_early due, passTime_eq_within]
      exact within machine _ before
  | false =>
      have ticked : holds (machine.clocked elapsed).tick.1 := by
        apply tick
        rw [clocked_eq_within]
        exact within machine _ before
      cases outcome : (machine.clocked elapsed).tick.2 with
      | error stop =>
          rw [cycle_of_stop due outcome]
          exact ticked
      | ok instruction =>
          rw [cycle_of_ok due outcome, refresh_eq_within]
          exact within _ _ ticked

end Chip8.Machine
