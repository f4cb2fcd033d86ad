/-
# Faults leave the machine intact

An instruction that meets a fault has not happened: six of them can, each somewhere
in the middle of what it does, and each of them changes nothing before it is certain
to succeed. Of a tick that meets a fault only the fetch remains, and of a cycle also
that time has passed.

Nothing is assumed about the machine or about what it is connected to. That display
and random source are the same afterwards, whatever they are, says that neither was
called.
-/

import Chip8.Proofs.Machine.Cycle

namespace Chip8.Machine

variable {τ δ ρ β : Type}

/-! ## What is left -/

/-- What a fault leaves of a machine: everything that a program works with is as it
was before, except that the program counter is behind the word that was fetched. -/
structure Intact (before after : Machine τ δ ρ β) : Prop where
  values_eq : after.registers.values = before.registers.values
  index_eq : after.registers.index = before.registers.index
  /-- The program counter has moved if, and only if, the fetch succeeded. -/
  pc_eq : after.registers.pc =
    match before.memory.fetch before.registers.pc with
    | .ok _ => before.registers.pc + 2
    | .error _ => before.registers.pc
  memory_eq : after.memory = before.memory
  stack_eq : after.stack = before.stack
  latch_eq : after.awaitedKey = before.awaitedKey
  display_eq : after.display = before.display
  random_eq : after.random = before.random
  dialect_eq : after.dialect = before.dialect
  period_eq : after.period = before.period

/-- The machine behind a fetch, which may not have succeeded. -/
def attempted (machine : Machine τ δ ρ β) : Machine τ δ ρ β :=
  if machine.fetchFault? = none then machine.fetched else machine

theorem intact_attempted (machine : Machine τ δ ρ β) : Intact machine machine.attempted := by
  unfold attempted
  cases refused : machine.fetchFault? with
  | some cause =>
      rw [if_neg (Option.some_ne_none cause)]
      have moved := Memory.fetch_of_some refused
      exact ⟨rfl, rfl, by rw [moved], rfl, rfl, rfl, rfl, rfl, rfl, rfl⟩
  | none =>
      rw [if_pos rfl]
      have moved := Memory.fetch_of_none refused
      exact ⟨rfl, rfl, by rw [moved, fetched], rfl, rfl, rfl, rfl, rfl, rfl, rfl⟩

/-- Fetching changes nothing that surrounds a program, but for the journal. -/
theorem attempted_surroundings (machine : Machine τ δ ρ β) :
    machine.attempted.registers.delay = machine.registers.delay ∧
      machine.attempted.registers.sound = machine.registers.sound ∧
      machine.attempted.backlog = machine.backlog ∧
      machine.attempted.buzzer = machine.buzzer := by
  unfold attempted
  split
  · exact ⟨rfl, rfl, rfl, rfl⟩
  · exact ⟨rfl, rfl, rfl, rfl⟩

/-! ## Instructions -/

/-- An operation that can only breach does not stop with a fault where it is committed. -/
theorem commitRegisters_ne_fault (machine : Machine τ δ ρ β)
    (result : Except Breach (Registers τ)) (fault : Fault) :
    (machine.commitRegisters (liftM result)).2 ≠ .error (.fault fault) := by
  cases result with
  | ok registers => simp
  | error breach => simp

/-- Waiting for a key meets no fault. -/
theorem awaitKey_ne_fault [Display δ] (machine : Machine τ δ ρ β) (x : UInt8) (fault : Fault) :
    (machine.awaitKey x).2 ≠ .error (.fault fault) := by
  unfold awaitKey
  split
  · split
    · simp
    · simp
    · next key _ =>
        cases assigned : machine.registers.set x key <;> simp [record, assigned]
  · split <;> simp

section Faults

variable [Seconds τ] [Display δ] [RandomSource ρ]
variable {machine : Machine τ δ ρ β} {fault : Fault}

/-- An instruction that meets a fault has not happened. -/
theorem execute_of_fault {instruction : Instruction}
    (stopped : (machine.execute instruction).2 = .error (.fault fault)) :
    (machine.execute instruction).1 = machine := by
  cases instruction with
  | clearScreen | unknown op => simp [execute] at stopped
  | random x mask =>
      -- The byte is drawn by now, but putting it into a register meets no fault.
      exact absurd stopped (commitRegisters_ne_fault _ _ fault)
  | awaitKey x => exact absurd stopped (awaitKey_ne_fault machine x fault)
  | ret | call target => exact commit_of_stop stopped
  | draw x y height => exact commit_of_stop stopped
  | storeDigits x | storeRegisters x => exact commit_of_stop stopped
  | _ => exact commitRegisters_of_stop stopped

/-! ## Ticks and cycles -/

/-- A tick that meets a fault has fetched, if it could, and has done nothing else. -/
theorem tick_of_fault (stopped : machine.tick.2 = .error (.fault fault)) :
    machine.tick.1 = machine.attempted := by
  unfold attempted
  cases refused : machine.fetchFault? with
  | some cause => rw [tick_of_fetchFault refused, if_neg (Option.some_ne_none cause)]
  | none =>
      rw [tick_of_fetch refused] at stopped
      have executed : (machine.fetched.execute machine.nextInstruction).2 =
          .error (.fault fault) := by
        cases outcome : (machine.fetched.execute machine.nextInstruction).2 with
        | ok answer => simp [outcome, Except.map] at stopped
        | error stop => simpa [outcome, Except.map] using stopped
      rw [tick_of_fetch refused, if_pos rfl]
      exact execute_of_fault executed

variable [Buzzer β]

/-- A cycle meets a fault only in its tick, and then it ends there. -/
theorem tick_of_cycle_fault {elapsed : τ}
    (stopped : (machine.cycle elapsed).2 = .error (.fault fault)) :
    (machine.clocked elapsed).tick.2 = .error (.fault fault) ∧
      (machine.cycle elapsed).1 = (machine.clocked elapsed).tick.1 := by
  cases due : machine.isEarly elapsed with
  | true => simp [cycle_of_early due] at stopped
  | false =>
      cases outcome : (machine.clocked elapsed).tick.2 with
      | ok instruction => simp [cycle_of_ok due outcome] at stopped
      | error stop =>
          have ended := cycle_of_stop due outcome
          rw [ended] at stopped ⊢
          have met : stop = .fault fault := Except.error.inj stopped
          exact ⟨congrArg Except.error met, rfl⟩

theorem cycle_of_fault {elapsed : τ}
    (stopped : (machine.cycle elapsed).2 = .error (.fault fault)) :
    (machine.cycle elapsed).1 = (machine.clocked elapsed).attempted := by
  obtain ⟨ticked, ended⟩ := tick_of_cycle_fault stopped
  exact ended.trans (tick_of_fault ticked)

/-- A tick that meets a fault leaves the machine intact and does not touch the clock.
So does a cycle, but for what it does before its tick: both timers have run down, the
buzzer was told once whether the sound timer still runs, and one period has been taken
off the time that has gone by. -/
theorem intact_of_fault (machine : Machine τ δ ρ β) (elapsed : τ) (fault : Fault) :
    (machine.tick.2 = .error (.fault fault) →
      Intact machine machine.tick.1 ∧
        machine.tick.1.registers.delay = machine.registers.delay ∧
        machine.tick.1.registers.sound = machine.registers.sound ∧
        machine.tick.1.backlog = machine.backlog ∧
        machine.tick.1.buzzer = machine.buzzer) ∧
    ((machine.cycle elapsed).2 = .error (.fault fault) →
      Intact machine (machine.cycle elapsed).1 ∧
        (machine.cycle elapsed).1.registers.delay = machine.registers.delay.decay elapsed ∧
        (machine.cycle elapsed).1.registers.sound = machine.registers.sound.decay elapsed ∧
        (machine.cycle elapsed).1.backlog = machine.backlog + elapsed - machine.period ∧
        (machine.cycle elapsed).1.buzzer =
          (Buzzer.setActive machine.buzzer
            (machine.registers.sound.decay elapsed).isActive).1) := by
  constructor
  · intro stopped
    rw [tick_of_fault stopped]
    exact ⟨machine.intact_attempted, machine.attempted_surroundings⟩
  · intro stopped
    rw [cycle_of_fault stopped]
    -- Time passes without touching anything that a fault leaves alone.
    have intact := (machine.clocked elapsed).intact_attempted
    refine ⟨?_, (machine.clocked elapsed).attempted_surroundings⟩
    exact ⟨intact.values_eq, intact.index_eq, intact.pc_eq, intact.memory_eq, intact.stack_eq,
      intact.latch_eq, intact.display_eq, intact.random_eq, intact.dialect_eq, intact.period_eq⟩

/-- A return from a subroutine that was never entered. -/
theorem intact_of_underflow :
    ∃ machine : Machine Rat HeadlessDisplay ByteCycle BuzzerTape,
      machine.tick.2 = .error (.fault .stackUnderflow) ∧ Intact machine machine.tick.1 ∧
        (machine.cycle 3).2 = .error (.fault .stackUnderflow) ∧
          (machine.cycle 3).1.backlog = 2 := by
  let machine : Machine Rat HeadlessDisplay ByteCycle BuzzerTape := {
    registers := .start
    memory := (Memory.zeros 514).withOverlay 512 [0x00, 0xEE]
    stack := .empty CallStack.machineDepth
    display := {}
    random := .ofBytes 0 []
    buzzer := {}
    dialect := {}
    period := 1
    backlog := 0
    awaitedKey := none
    journal := #[] }
  have ticked : machine.tick.2 = .error (.fault .stackUnderflow) := by decide +kernel
  have cycled : (machine.cycle 3).2 = .error (.fault .stackUnderflow) := by decide +kernel
  have intact := intact_of_fault machine 3 .stackUnderflow
  have left : machine.backlog + 3 - machine.period = 2 := by decide +kernel
  exact ⟨machine, ticked, (intact.1 ticked).1, cycled,
    (intact.2 cycled).2.2.2.1.trans left⟩

end Faults

end Chip8.Machine
