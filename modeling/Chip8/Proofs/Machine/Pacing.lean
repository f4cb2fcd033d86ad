/-
# Pacing

How many instructions a machine attempts while time goes by, for time that is kept in
rational numbers. Any number of cycles, of any lengths, are taken together: cycles that come
too early, cycles that come in time, and cycles that work off what long ones have left over.

The number of attempts follows the number of whole periods that have gone by. It never gets
ahead of it, and it grows by at most one in each cycle. What has not been spent is kept, to
the last fraction, so that a machine which has fallen behind attempts an instruction in every
cycle until it has caught up. If no cycle is longer than a period, it never falls behind.
-/

import Chip8.Proofs.Machine.Attempts
import Mathlib.Algebra.BigOperators.Group.List.Basic
import Mathlib.Algebra.Order.BigOperators.Group.List
import Mathlib.Data.List.Induction
import Mathlib.Data.Rat.Floor
import Mathlib.Tactic.Linarith
import Mathlib.Tactic.Ring

namespace Chip8.Machine

variable {δ ρ β : Type}

/-! ## Time in rational numbers -/

section Rational

variable (machine : Machine Rat δ ρ β) (elapsed : Rat)

theorem isEarly_iff :
    machine.isEarly elapsed = true ↔ machine.backlog + elapsed < machine.period :=
  decide_eq_true_iff

variable [Buzzer β]

theorem backlog_passTime :
    (machine.passTime elapsed).backlog = machine.backlog + elapsed := rfl

theorem backlog_clocked :
    (machine.clocked elapsed).backlog = machine.backlog + elapsed - machine.period := rfl

end Rational

variable [Display δ] [ScreenDisplay δ] [RandomSource ρ] [Buzzer β]

theorem backlog_of_due {machine : Machine Rat δ ρ β} {elapsed : Rat}
    (due : machine.isEarly elapsed = false) :
    (machine.cycle elapsed).1.backlog = machine.backlog + elapsed - machine.period := by
  have ticked := (machine.clocked elapsed).tick_leaves.2.2.2
  cases outcome : (machine.clocked elapsed).tick.2 with
  | error stop =>
      rw [cycle_of_stop due outcome, ticked, backlog_clocked]
  | ok instruction =>
      rw [cycle_of_ok due outcome]
      exact ticked.trans (machine.backlog_clocked elapsed)

/-- How many instructions are attempted in a run of cycles. -/
def attemptCount (machine : Machine Rat δ ρ β) (times : List Rat) : Nat :=
  (machine.attempts times).length

/-! ## One more cycle -/

section Concat

variable (machine : Machine Rat δ ρ β) (times : List Rat) (elapsed : Rat)

theorem attemptCount_concat :
    machine.attemptCount (times ++ [elapsed]) =
      machine.attemptCount times +
        if (machine.run (times.map .cycle)).1.isEarly elapsed then 0 else 1 := by
  rw [attemptCount, attempts_append, List.length_append, attemptCount]
  cases due : (machine.run (times.map .cycle)).1.isEarly elapsed with
  | true => rw [attempts_of_early due, attempts, List.length_nil, if_pos rfl]
  | false =>
      rw [attempts_of_due due, attempts, List.length_cons, List.length_nil,
        if_neg Bool.false_ne_true]

/-- No time is lost: what has not been spent is in the backlog. -/
theorem backlog_eq (settled : machine.backlog = 0) :
    (machine.run (times.map .cycle)).1.backlog =
      times.sum - machine.attemptCount times * machine.period := by
  induction times using List.reverseRecOn with
  | nil => simp [run, settled, attemptCount, attempts]
  | append_singleton times elapsed ih =>
      rw [run_cycles_concat, attemptCount_concat, List.sum_append, List.sum_singleton]
      cases due : (machine.run (times.map .cycle)).1.isEarly elapsed with
      | true =>
          rw [cycle_of_early due, backlog_passTime, ih, if_pos rfl]
          push_cast
          ring
      | false =>
          rw [backlog_of_due due, ih, run_period, if_neg Bool.false_ne_true]
          push_cast
          ring

end Concat

/-! ## The law -/

section Law

variable {machine : Machine Rat δ ρ β} {times : List Rat} {elapsed : Rat}

theorem backlog_nonneg (settled : machine.backlog = 0) (forward : ∀ time ∈ times, 0 ≤ time) :
    0 ≤ (machine.run (times.map .cycle)).1.backlog := by
  induction times using List.reverseRecOn with
  | nil => exact settled.ge
  | append_singleton times elapsed ih =>
      obtain ⟨before, last⟩ := List.forall_mem_append.mp forward
      have nonneg : 0 ≤ elapsed := last elapsed List.mem_cons_self
      rw [run_cycles_concat]
      cases due : (machine.run (times.map .cycle)).1.isEarly elapsed with
      | true =>
          rw [cycle_of_early due, backlog_passTime]
          exact add_nonneg (ih before) nonneg
      | false =>
          rw [backlog_of_due due, sub_nonneg]
          by_contra early
          rw [(isEarly_iff _ _).mpr (not_le.mp early)] at due
          cases due

/-- The machine attempts an instruction exactly if one more period has gone by than it has
attempted instructions so far. -/
theorem isEarly_eq_false_iff (settled : machine.backlog = 0) (period_pos : 0 < machine.period)
    (times : List Rat) (elapsed : Rat) :
    (machine.run (times.map .cycle)).1.isEarly elapsed = false ↔
      machine.attemptCount times + 1 ≤ ⌊(times.sum + elapsed) / machine.period⌋₊ := by
  rw [Nat.le_floor_iff' (Nat.succ_ne_zero _), le_div_iff₀ period_pos, ← Bool.not_eq_true,
    isEarly_iff, run_period, backlog_eq _ _ settled, not_lt]
  push_cast
  constructor <;> intro reached <;> linarith

/-- The machine never gets ahead of the time that has gone by. -/
theorem attemptCount_le_floor (settled : machine.backlog = 0) (period_pos : 0 < machine.period)
    (forward : ∀ time ∈ times, 0 ≤ time) :
    machine.attemptCount times ≤ ⌊times.sum / machine.period⌋₊ := by
  have spent := backlog_nonneg settled forward
  rw [backlog_eq _ _ settled, sub_nonneg] at spent
  exact Nat.le_floor ((le_div_iff₀ period_pos).mpr spent)

theorem attemptCount_eq_min (settled : machine.backlog = 0) (period_pos : 0 < machine.period)
    (forward : ∀ time ∈ times, 0 ≤ time) (nonneg : 0 ≤ elapsed) :
    machine.attemptCount (times ++ [elapsed]) =
      min (machine.attemptCount times + 1) ⌊(times.sum + elapsed) / machine.period⌋₊ := by
  have due_iff := isEarly_eq_false_iff settled period_pos times elapsed
  rw [attemptCount_concat]
  cases due : (machine.run (times.map .cycle)).1.isEarly elapsed with
  | false => rw [if_neg Bool.false_ne_true, min_eq_left (due_iff.mp due)]
  | true =>
      -- Too early means that no period was completed, so both sides stay as they were.
      have later : ⌊times.sum / machine.period⌋₊ ≤
          ⌊(times.sum + elapsed) / machine.period⌋₊ := by
        gcongr
        linarith
      have before := attemptCount_le_floor settled period_pos forward
      have early : ¬ machine.attemptCount times + 1 ≤
          ⌊(times.sum + elapsed) / machine.period⌋₊ := by
        simp [← due_iff, due]
      rw [if_pos rfl]
      omega

/-- If no cycle is longer than a period, the machine keeps up with the time. -/
theorem attemptCount_eq_floor (settled : machine.backlog = 0) (period_pos : 0 < machine.period)
    (forward : ∀ time ∈ times, 0 ≤ time) (short : ∀ time ∈ times, time ≤ machine.period) :
    machine.attemptCount times = ⌊times.sum / machine.period⌋₊ := by
  induction times using List.reverseRecOn with
  | nil => simp [attemptCount, attempts]
  | append_singleton times elapsed ih =>
      obtain ⟨before, last⟩ := List.forall_mem_append.mp forward
      obtain ⟨shortBefore, shortLast⟩ := List.forall_mem_append.mp short
      have nonneg : 0 ≤ elapsed := last elapsed List.mem_cons_self
      have onePeriod : elapsed ≤ machine.period := shortLast elapsed List.mem_cons_self
      have total : 0 ≤ times.sum / machine.period :=
        div_nonneg (List.sum_nonneg before) period_pos.le
      -- A short cycle completes one period at most, which is as many as can be worked off.
      have next : ⌊(times.sum + elapsed) / machine.period⌋₊ ≤
          ⌊times.sum / machine.period⌋₊ + 1 := by
        rw [← Nat.floor_add_one total, ← div_self period_pos.ne', ← add_div]
        gcongr
      rw [attemptCount_eq_min settled period_pos before nonneg, ih before shortBefore,
        min_eq_right next, List.sum_append, List.sum_singleton]

/-- A machine that has no time left over at the beginning, and takes some time for an
instruction, is given times none of which is negative. Then the number of attempts is zero
at the beginning, and behind one more cycle the smaller one of its successor and of the
number of whole periods that have gone by. What has not been spent on attempts is left over,
and never negative, so the attempts have never taken more time than has gone by. A cycle
ticks once at most, and it does attempt an instruction if more whole periods have gone by
than instructions were attempted. If no time is longer than a period, these are always equal
behind a cycle. -/
theorem attemptCount_law (settled : machine.backlog = 0) (period_pos : 0 < machine.period)
    (forward : ∀ time ∈ times, 0 ≤ time) (nonneg : 0 ≤ elapsed) :
    let after := (machine.run (times.map .cycle)).1
    let count := machine.attemptCount
    count [] = 0 ∧
      count (times ++ [elapsed]) =
        min (count times + 1) ⌊(times ++ [elapsed]).sum / machine.period⌋₊ ∧
      after.backlog = times.sum - count times * machine.period ∧
      0 ≤ after.backlog ∧
      count times * machine.period ≤ times.sum ∧
      after.TicksOnceAtMost elapsed ∧
      (count times < ⌊(times ++ [elapsed]).sum / machine.period⌋₊ →
        (after.attempt? elapsed).isSome) ∧
      ((∀ time ∈ times, time ≤ machine.period) →
        count times = ⌊times.sum / machine.period⌋₊) := by
  intro after count
  have spent : after.backlog = times.sum - count times * machine.period := backlog_eq _ _ settled
  have left : 0 ≤ after.backlog := backlog_nonneg settled forward
  rw [List.sum_append, List.sum_singleton]
  refine ⟨rfl, attemptCount_eq_min settled period_pos forward nonneg, spent, left,
    ?ahead, ticksOnceAtMost _ _, ?behind, attemptCount_eq_floor settled period_pos forward⟩
  case ahead =>
    rw [spent] at left
    exact sub_nonneg.mp left
  case behind =>
    intro owed
    rw [attempt?_of_due ((isEarly_eq_false_iff settled period_pos times elapsed).mpr owed)]
    rfl

/-- Two short cycles make one period, and the long one behind them is worth five, of which
it works off one. -/
theorem attemptCount_of_long_cycle :
    ∃ machine : Machine Rat HeadlessDisplay ByteCycle BuzzerTape,
      start { instructionsPerSecond := 4, memorySize := 516 } {} (.ofBytes 0 []) {} = .ok machine ∧
        machine.attemptCount ([1 / 8, 1 / 8] ++ [5 / 4]) = 2 := by
  let config : Config := { instructionsPerSecond := 4, memorySize := 516 }
  let machine : Machine Rat HeadlessDisplay ByteCycle BuzzerTape :=
    fresh config {} (.ofBytes 0 []) {}
  have built : start config {} (.ofBytes 0 []) {} = .ok machine :=
    start_eq_fresh _ _ _ _ (by decide) (by decide)
  have period_eq : machine.period = 1 / 4 := by decide +kernel
  have forward : ∀ time ∈ ([1 / 8, 1 / 8] : List Rat), 0 ≤ time := by decide +kernel
  have short : ∀ time ∈ ([1 / 8, 1 / 8] : List Rat), time ≤ machine.period := by decide +kernel
  have period_pos : 0 < machine.period := by rw [period_eq]; norm_num
  obtain ⟨-, behind, -, -, -, -, -, before⟩ :=
    attemptCount_law rfl period_pos forward (by norm_num : (0 : Rat) ≤ 5 / 4)
  refine ⟨machine, built, ?_⟩
  rw [behind, before short, period_eq]
  norm_num

end Law

end Chip8.Machine
