/-
# Attempts

A cycle attempts an instruction unless it comes too early for one. The attempts of a run of
cycles are what its program amounts to: which instructions were met, with which answers, and
what the program found behind each of them. Cycles that came too early leave no trace among
them, and so runs of machines that keep different kinds of time can be compared attempt by
attempt.

Machines are in step if they have the same core and will take in the same batches of keys.
Cycles that come too early leave them in step, and so does an attempt that both machines
make, unless it reads the delay timer. So the attempts are the same on both of them, up to
the first one that does. How the machines came to be in step is not asked.
-/

import Chip8.Proofs.Machine.Core
import Chip8.Proofs.Machine.Run

namespace Chip8.Machine

variable {τ δ β τ' δ' β' ρ : Type}

/-! ## Machines in step -/

section Step

variable [Display δ] [ScreenDisplay δ] [PolledDisplay δ]
variable [Display δ'] [ScreenDisplay δ'] [PolledDisplay δ']

/-- Two machines are at the same point of the same program, and are yet to be given the same
keys. -/
structure InStep (first : Machine τ δ ρ β) (second : Machine τ' δ' ρ β') : Prop where
  core_eq : first.core = second.core
  batch_eq : PolledDisplay.batch first.display = PolledDisplay.batch second.display

variable {first : Machine τ δ ρ β} {second : Machine τ' δ' ρ β'}

theorem InStep.met?_eq (inStep : first.InStep second) : first.met? = second.met? := by
  have memory_eq : first.memory = second.memory := congrArg Core.memory inStep.core_eq
  have pc_eq : first.registers.pc = second.registers.pc := congrArg Core.pc inStep.core_eq
  rw [met?, memory_eq, pc_eq]
  rfl

theorem InStep.refresh (inStep : first.InStep second) :
    first.refresh.InStep second.refresh := by
  refine ⟨core_refresh inStep.core_eq (congrFun inStep.batch_eq 0), ?_⟩
  funext count
  exact (PolledDisplay.batch_refresh _ count).trans
    ((congrFun inStep.batch_eq (count + 1)).trans (PolledDisplay.batch_refresh _ count).symm)

variable [Seconds τ] [Seconds τ'] [RandomSource ρ]

theorem InStep.tick (inStep : first.InStep second)
    (untimed : ∀ x, first.met? ≠ some (.readDelay x)) :
    first.tick.1.InStep second.tick.1 ∧ second.tick.2 = first.tick.2 := by
  obtain ⟨core_eq, answer_eq⟩ := core_tick inStep.core_eq fun x met => absurd met (untimed x)
  refine ⟨⟨core_eq, ?_⟩, answer_eq.symm⟩
  rw [batch_tick, batch_tick, inStep.batch_eq]

variable [Buzzer β] [Buzzer β'] {elapsed : τ} {elapsed' : τ'}

/-- If both machines attempt an instruction, they stay in step. -/
theorem InStep.cycle_of_due (inStep : first.InStep second) (due : first.isEarly elapsed = false)
    (due' : second.isEarly elapsed' = false) (untimed : ∀ x, first.met? ≠ some (.readDelay x)) :
    (first.cycle elapsed).1.InStep (second.cycle elapsed').1 ∧
      (second.cycle elapsed').2 = (first.cycle elapsed).2 := by
  -- Letting time pass reaches neither the core nor the keys.
  have clocked : (first.clocked elapsed).InStep (second.clocked elapsed') :=
    ⟨inStep.core_eq, inStep.batch_eq⟩
  apply cycle_related InStep
  · exact due'.trans due.symm
  · exact ⟨inStep.core_eq, inStep.batch_eq⟩
  · exact fun _ => clocked.tick untimed
  · exact InStep.refresh

end Step

/-! ## Attempts -/

/-- What came of attempting an instruction. -/
structure Attempt (ρ : Type) where
  /-- The instruction. There is none if it could not be fetched. -/
  met : Option Instruction
  /-- What the cycle answered. -/
  answer : Except Stop Bool
  /-- What the program finds behind the cycle. -/
  after : Core ρ

variable [Seconds τ] [Display δ] [RandomSource ρ] [Buzzer β]

/-- A cycle only lets time pass, which leaves the display alone, or ticks once behind that,
and shows the screen and reads the keys if the tick succeeds. -/
def TicksOnceAtMost (machine : Machine τ δ ρ β) (elapsed : τ) : Prop :=
  ∃ passed, passed.display = machine.display ∧
    (machine.cycle elapsed = (machine.within passed, .ok false) ∨
      machine.cycle elapsed =
        match (machine.within passed).tick with
        | (after, .ok _) => (after.refresh, .ok true)
        | (after, .error stop) => (after, .error stop))

/-- No cycle attempts two instructions. -/
theorem ticksOnceAtMost (machine : Machine τ δ ρ β) (elapsed : τ) :
    machine.TicksOnceAtMost elapsed := by
  cases due : machine.isEarly elapsed with
  | true => exact ⟨(machine.passTime elapsed).surroundings, rfl, .inl (cycle_of_early due)⟩
  | false =>
      refine ⟨(machine.clocked elapsed).surroundings, rfl, .inr ?_⟩
      rw [cycle_of_due due, ← clocked_eq_within]
      rcases (machine.clocked elapsed).tick with ⟨after, _ | _⟩ <;> rfl

variable [ScreenDisplay δ]

/-- The attempt of a cycle, unless it comes too early for one. -/
def attempt? (machine : Machine τ δ ρ β) (elapsed : τ) : Option (Attempt ρ) :=
  match (machine.cycle elapsed).2 with
  | .ok false => none
  | answer => some { met := machine.met?, answer, after := (machine.cycle elapsed).1.core }

/-- The attempts of a run of cycles, the first one first. -/
def attempts (machine : Machine τ δ ρ β) : List τ → List (Attempt ρ)
  | [] => []
  | elapsed :: rest =>
      (machine.attempt? elapsed).toList ++ (machine.cycle elapsed).1.attempts rest

variable {machine : Machine τ δ ρ β} {elapsed : τ}

theorem attempt?_of_early (early : machine.isEarly elapsed = true) :
    machine.attempt? elapsed = none := by
  rw [attempt?, cycle_of_early early]

theorem attempt?_of_due (due : machine.isEarly elapsed = false) :
    machine.attempt? elapsed =
      some { met := machine.met?
             answer := (machine.cycle elapsed).2
             after := (machine.cycle elapsed).1.core } := by
  cases outcome : (machine.clocked elapsed).tick.2 with
  | ok instruction => rw [attempt?, cycle_of_ok due outcome]
  | error stop => rw [attempt?, cycle_of_stop due outcome]

theorem attempts_of_early (early : machine.isEarly elapsed = true) (rest : List τ) :
    machine.attempts (elapsed :: rest) = (machine.cycle elapsed).1.attempts rest := by
  rw [attempts, attempt?_of_early early]
  rfl

theorem attempts_of_due (due : machine.isEarly elapsed = false) (rest : List τ) :
    machine.attempts (elapsed :: rest) =
      { met := machine.met?
        answer := (machine.cycle elapsed).2
        after := (machine.cycle elapsed).1.core } :: (machine.cycle elapsed).1.attempts rest := by
  rw [attempts, attempt?_of_due due]
  rfl

theorem attempts_append (machine : Machine τ δ ρ β) (times more : List τ) :
    machine.attempts (times ++ more) =
      machine.attempts times ++ (machine.run (times.map .cycle)).1.attempts more := by
  induction times generalizing machine with
  | nil => rfl
  | cons elapsed rest ih =>
      rw [List.cons_append, attempts, attempts, ih, List.append_assoc, run_cycles_cons]

/-! ## Attempts of machines in step -/

section Compare

variable [PolledDisplay δ]

/-- Cycles in front of the first attempt can be left out. -/
theorem exists_due (machine : Machine τ δ ρ β) {times : List τ}
    (attempted : 0 < (machine.attempts times).length) :
    ∃ (waiting : Machine τ δ ρ β) (elapsed : τ) (rest : List τ),
      machine.core = waiting.core ∧
        PolledDisplay.batch machine.display = PolledDisplay.batch waiting.display ∧
        waiting.isEarly elapsed = false ∧
        machine.attempts times = waiting.attempts (elapsed :: rest) := by
  induction times generalizing machine with
  | nil => cases attempted
  | cons elapsed rest ih =>
      cases due : machine.isEarly elapsed with
      | false => exact ⟨machine, elapsed, rest, rfl, rfl, due, rfl⟩
      | true =>
          rw [attempts_of_early due, cycle_of_early due] at attempted ⊢
          exact ih _ attempted

variable [Seconds τ'] [Display δ'] [ScreenDisplay δ'] [PolledDisplay δ'] [Buzzer β']
variable {first : Machine τ δ ρ β} {second : Machine τ' δ' ρ β'}

/-- Machines in step make the same attempts, as far as both come and no attempt reads the
delay timer. -/
theorem InStep.take_attempts_eq (inStep : first.InStep second) {times : List τ}
    {times' : List τ'} {count : Nat} (reached : count ≤ (first.attempts times).length)
    (reached' : count ≤ (second.attempts times').length)
    (untimed : ∀ attempt ∈ (first.attempts times).take count, ∀ x,
      attempt.met ≠ some (.readDelay x)) :
    (first.attempts times).take count = (second.attempts times').take count := by
  -- The induction is on the attempts, since the machines may idle differently between them.
  induction count generalizing first second times times' with
  | zero => rw [List.take_zero, List.take_zero]
  | succ count ih =>
      obtain ⟨waiting, elapsed, rest, core_eq, batch_eq, due, same⟩ :=
        first.exists_due (Nat.lt_of_lt_of_le count.succ_pos reached)
      obtain ⟨waiting', elapsed', rest', core_eq', batch_eq', due', same'⟩ :=
        second.exists_due (Nat.lt_of_lt_of_le count.succ_pos reached')
      have still : waiting.InStep waiting' :=
        ⟨core_eq.symm.trans (inStep.core_eq.trans core_eq'),
          batch_eq.symm.trans (inStep.batch_eq.trans batch_eq')⟩
      rw [same, attempts_of_due due] at reached untimed ⊢
      rw [same', attempts_of_due due'] at reached' ⊢
      rw [List.take_succ_cons, List.forall_mem_cons] at untimed
      obtain ⟨after, answer_eq⟩ := still.cycle_of_due due due' untimed.1
      rw [List.take_succ_cons, List.take_succ_cons, still.met?_eq, answer_eq, after.core_eq,
        ih after (Nat.le_of_succ_le_succ reached) (Nat.le_of_succ_le_succ reached') untimed.2]

end Compare

end Chip8.Machine
