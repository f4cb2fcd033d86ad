/-
# Timers follow the time

For time that is kept in rational numbers, a timer that was set to some ticks shows how much
time has gone by since. It does not matter into how many cycles this time was divided, nor
in which of them instructions were executed. What remains is never negative, because a timer
that has run down stays at zero, and dividing the time differently does not change at which
point it does.

Both timers are treated alike, apart from the instruction that sets them and the one that
reads the delay timer.
-/

import Chip8.Proofs.Machine.History
import Mathlib.Algebra.BigOperators.Group.List.Basic
import Mathlib.Algebra.Order.BigOperators.Group.List
import Mathlib.Data.Rat.Floor
import Mathlib.Tactic.Linarith
import Mathlib.Tactic.Ring

namespace Chip8

/-! ## One timer -/

namespace Timer

theorem remaining_ofByte (ticks : UInt8) :
    (ofByte ticks : Timer Rat).remaining = (ticks.toNat : Rat) := rfl

/-- Letting time pass takes sixty ticks a second off, down to zero. -/
theorem remaining_decay {timer : Timer Rat} {elapsed : Rat} (nonneg : 0 ≤ timer.remaining)
    (forward : 0 ≤ elapsed) :
    (timer.decay elapsed).remaining = max 0 (timer.remaining - 60 * elapsed) := by
  have active_iff : ∀ timer : Timer Rat, timer.isActive = true ↔ 0 < timer.remaining := by
    intro timer
    exact decide_eq_true_iff
  have rest_eq : ∀ rest : Timer Rat, (if rest.isActive then rest else ofByte 0).remaining =
      max 0 rest.remaining := by
    intro rest
    by_cases active : rest.isActive = true
    · rw [if_pos active, max_eq_right ((active_iff rest).mp active).le]
    · rw [if_neg active, max_eq_left (not_lt.mp (mt (active_iff rest).mpr active))]
      rfl
  rw [decay]
  by_cases active : timer.isActive = true
  · rw [if_pos active]
    refine (rest_eq _).trans ?_
    rw [mul_comm 60]
    rfl
  · have down : timer.remaining ≤ 0 := not_lt.mp (mt (active_iff timer).mpr active)
    rw [if_neg active, max_eq_left (by linarith)]
    exact le_antisymm down nonneg

/-- The whole ticks of a timer that a program has set. -/
theorem toNat_ticks {timer : Timer Rat} (bounded : timer.remaining ≤ 255) :
    timer.ticks.toNat = ⌊timer.remaining⌋₊ := by
  have small : ⌊timer.remaining⌋₊ ≤ 255 := Nat.floor_le_of_le (by exact_mod_cast bounded)
  have whole : timer.remaining.floor.toNat = ⌊timer.remaining⌋₊ := rfl
  rw [ticks, Seconds.toByte]
  change (UInt8.ofNat (min timer.remaining.floor.toNat 255)).toNat = _
  rw [whole, min_eq_left small, UInt8.toNat_ofNat']
  omega

end Timer

/-! ## Two timers -/

/-- Which of the two timers. -/
inductive TimerName where
  | delay
  | sound
  deriving DecidableEq

namespace Registers

variable {τ : Type}

/-- The timer with a name. -/
def timer (registers : Registers τ) : TimerName → Timer τ
  | .delay => registers.delay
  | .sound => registers.sound

theorem timer_skipIf (registers : Registers τ) (condition : Bool) (name : TimerName) :
    (registers.skipIf condition).timer name = registers.timer name := by
  cases condition <;> rfl

theorem timer_compute (registers : Registers τ) (legacyShift : Bool) (op : AluOp) (x y : UInt8)
    (name : TimerName) :
    (registers.compute legacyShift op x y).timer name = registers.timer name := by
  cases op <;> rfl

theorem timer_decayTimers [Seconds τ] (registers : Registers τ) (elapsed : τ)
    (name : TimerName) :
    (registers.decayTimers elapsed).timer name = (registers.timer name).decay elapsed := by
  cases name <;> rfl

end Registers

/-- The register whose value an instruction sets a timer to, if it sets that timer. -/
def Instruction.setter? (name : TimerName) : Instruction → Option UInt8
  | .setDelay x => if name = .delay then some x else none
  | .setSound x => if name = .sound then some x else none
  | _ => none

/-- The ticks that a deed sets a timer to, if it sets that timer. -/
def Deed.sets? {τ δ ρ β : Type} (name : TimerName) : Deed τ δ ρ β → Option UInt8
  | .executed machine instruction => (instruction.setter? name).map machine.registers.value
  | .loaded _ => none

namespace Machine

section Events

variable {τ δ ρ β : Type} [Seconds τ] [Display δ] [ScreenDisplay δ] [RandomSource ρ]

/-- An instruction changes a timer only by setting it. -/
theorem timer_effect (machine : Machine τ δ ρ β) (instruction : Instruction)
    (name : TimerName) :
    (machine.effect instruction).registers.timer name =
      match (instruction.setter? name).map machine.registers.value with
      | some ticks => .ofByte ticks
      | none => machine.registers.timer name := by
  cases instruction with
  | setDelay x | setSound x => cases name <;> rfl
  | awaitKey x =>
      refine await_related (fun after _ => after.registers.timer name = _) rfl rfl ?_ ?_ ?_
      · cases name <;> rfl
      · intro key
        cases name <;> rfl
      · intro key
        cases name <;> rfl
  | skipIfByte x byte | skipUnlessByte x byte | skipIfSame x y | skipUnlessSame x y
  | skipIfKey x | skipUnlessKey x => exact Registers.timer_skipIf _ _ name
  | alu op x y => exact Registers.timer_compute _ _ op x y name
  | _ => cases name <;> rfl

/-- A tick changes a timer only if it executes an instruction that sets it. -/
theorem timer_tick (machine : Machine τ δ ρ β) (name : TimerName) :
    machine.tick.1.registers.timer name =
      match machine.tickDeed?.bind (Deed.sets? name) with
      | some ticks => .ofByte ticks
      | none => machine.registers.timer name := by
  have fetched : machine.fetched.registers.timer name = machine.registers.timer name := by
    cases name <;> rfl
  rw [tickDeed?]
  cases outcome : machine.tick.2 with
  | error stop =>
      rcases tick_of_error outcome with kept | moved
      · rw [kept]
        rfl
      · rw [moved]
        exact fetched
  | ok instruction =>
      rw [(tick_of_ok outcome).2.2.2, timer_effect, fetched]
      rfl

variable [Buzzer β]

/-- Time passes for a timer in every cycle, and then an instruction may set it. -/
theorem timer_cycle (machine : Machine τ δ ρ β) (elapsed : τ) (name : TimerName) :
    (machine.cycle elapsed).1.registers.timer name =
      match (machine.deed? (.cycle elapsed)).bind (Deed.sets? name) with
      | some ticks => .ofByte ticks
      | none => (machine.registers.timer name).decay elapsed := by
  have passed : (machine.clocked elapsed).registers.timer name =
      (machine.registers.timer name).decay elapsed :=
    machine.registers.timer_decayTimers elapsed name
  cases due : machine.isEarly elapsed with
  | true =>
      rw [cycle_of_early due, deed?_of_early due]
      exact passed
  | false =>
      have cycled : (machine.cycle elapsed).1.registers =
          (machine.clocked elapsed).tick.1.registers := by
        cases outcome : (machine.clocked elapsed).tick.2 with
        | error stop => rw [cycle_of_stop due outcome]
        | ok instruction =>
            rw [cycle_of_ok due outcome]
            rfl
      rw [deed?_of_due due, cycled, timer_tick, passed]

end Events

/-! ## Runs of cycles -/

section Runs

variable {δ ρ β : Type}

/-- The ticks, and the fraction of one, that remain on a timer. -/
def remaining (machine : Machine Rat δ ρ β) (name : TimerName) : Rat :=
  (machine.registers.timer name).remaining

variable [Display δ] [ScreenDisplay δ] [RandomSource ρ] [Buzzer β]

/-- No instruction sets the timer in a run of cycles. -/
def NeverSets (machine : Machine Rat δ ρ β) (name : TimerName) (times : List Rat) : Prop :=
  ∀ deed ∈ machine.history (times.map .cycle), deed.sets? name = none

/-- An instruction sets the timer to some ticks in a run of cycles, and none sets it in the
cycles that come later. -/
def LastSets (machine : Machine Rat δ ρ β) (name : TimerName) (times : List Rat) (ticks : UInt8)
    (later : List Rat) : Prop :=
  ∃ earlier elapsed deed, times = earlier ++ elapsed :: later ∧
    (machine.run (earlier.map .cycle)).1.deed? (.cycle elapsed) = some deed ∧
    deed.sets? name = some ticks ∧
    (machine.run ((earlier ++ [elapsed]).map .cycle)).1.NeverSets name later

variable {machine : Machine Rat δ ρ β} {name : TimerName} {times later : List Rat}
  {elapsed : Rat} {ticks : UInt8}

theorem neverSets_cons_iff :
    machine.NeverSets name (elapsed :: times) ↔
      (machine.deed? (.cycle elapsed)).bind (Deed.sets? name) = none ∧
        (machine.cycle elapsed).1.NeverSets name times := by
  rw [NeverSets, List.map_cons, history, List.forall_mem_append]
  refine and_congr ?_ Iff.rfl
  cases machine.deed? (.cycle elapsed) with
  | none => simp
  | some deed => simp

/-- A timer is never set in a run of cycles, or there is a last time. -/
theorem neverSets_or_lastSets (machine : Machine Rat δ ρ β) (name : TimerName)
    (times : List Rat) :
    machine.NeverSets name times ∨ ∃ ticks later, machine.LastSets name times ticks later := by
  induction times generalizing machine with
  | nil => exact .inl fun _ listed => nomatch listed
  | cons elapsed rest ih =>
      rcases ih (machine.cycle elapsed).1 with
        never | ⟨ticks, later, earlier, time, deed, same, found⟩
      · cases acted : (machine.deed? (.cycle elapsed)).bind (Deed.sets? name) with
        | none => exact .inl (neverSets_cons_iff.mpr ⟨acted, never⟩)
        | some ticks =>
            obtain ⟨deed, done, sets⟩ := Option.bind_eq_some_iff.mp acted
            exact .inr ⟨ticks, rest, [], elapsed, deed, rfl, done, sets, never⟩
      · exact .inr ⟨ticks, later, elapsed :: earlier, time, deed, by rw [same]; rfl, found⟩

/-- Stopping at zero in between makes no difference to where a countdown ends. -/
theorem max_zero_sub {left spent : Rat} (nonneg : 0 ≤ spent) :
    max 0 (max 0 left - spent) = max 0 (left - spent) := by
  rcases le_total left 0 with down | up
  · rw [max_eq_left down, max_eq_left (by linarith), max_eq_left (by linarith)]
  · rw [max_eq_right up]

theorem remaining_cycle_of_unset (nonneg : 0 ≤ machine.remaining name) (forward : 0 ≤ elapsed)
    (unset : (machine.deed? (.cycle elapsed)).bind (Deed.sets? name) = none) :
    (machine.cycle elapsed).1.remaining name = max 0 (machine.remaining name - 60 * elapsed) := by
  rw [remaining, timer_cycle, unset]
  exact Timer.remaining_decay nonneg forward

/-- While no instruction sets it, a timer shows the sum of the times that went by, however
they were divided. -/
theorem remaining_of_neverSets (nonneg : 0 ≤ machine.remaining name)
    (forward : ∀ time ∈ times, 0 ≤ time) (never : machine.NeverSets name times) :
    (machine.run (times.map .cycle)).1.remaining name =
      max 0 (machine.remaining name - 60 * times.sum) := by
  induction times generalizing machine with
  | nil => rw [List.sum_nil, mul_zero, sub_zero, max_eq_right nonneg]; rfl
  | cons elapsed rest ih =>
      obtain ⟨here, rest_forward⟩ := List.forall_mem_cons.mp forward
      obtain ⟨unset, rest_never⟩ := neverSets_cons_iff.mp never
      have cycled := remaining_cycle_of_unset nonneg here unset
      have nonneg' : 0 ≤ (machine.cycle elapsed).1.remaining name := by
        rw [cycled]
        exact le_max_left _ _
      have spent : 0 ≤ 60 * rest.sum := mul_nonneg (by norm_num) (List.sum_nonneg rest_forward)
      rw [run_cycles_cons, ih nonneg' rest_forward rest_never, cycled, max_zero_sub spent,
        List.sum_cons, mul_add, sub_sub]

/-- Behind the last instruction that set it, a timer shows the time since. -/
theorem remaining_of_lastSets (forward : ∀ time ∈ times, 0 ≤ time)
    (set : machine.LastSets name times ticks later) :
    (machine.run (times.map .cycle)).1.remaining name =
      max 0 ((ticks.toNat : Rat) - 60 * later.sum) := by
  obtain ⟨earlier, elapsed, deed, rfl, acted, sets, never⟩ := set
  have begun : (machine.run ((earlier ++ [elapsed]).map .cycle)).1.remaining name =
      ticks.toNat := by
    rw [run_cycles_concat, remaining, timer_cycle, acted, Option.bind_some, sets]
    exact Timer.remaining_ofByte ticks
  have later_forward : ∀ time ∈ later, 0 ≤ time := by
    intro time listed
    exact forward time (List.mem_append_right _ (List.mem_cons_of_mem _ listed))
  have nonneg : 0 ≤ (machine.run ((earlier ++ [elapsed]).map .cycle)).1.remaining name := by
    rw [begun]
    exact Nat.cast_nonneg _
  rw [← begun, ← remaining_of_neverSets nonneg later_forward never, List.append_cons,
    List.map_append, run_append]

theorem remaining_bounds (stopped : machine.remaining name = 0)
    (forward : ∀ time ∈ times, 0 ≤ time) :
    0 ≤ (machine.run (times.map .cycle)).1.remaining name ∧
      (machine.run (times.map .cycle)).1.remaining name ≤ 255 := by
  rcases machine.neverSets_or_lastSets name times with never | ⟨ticks, later, set⟩
  · rw [remaining_of_neverSets stopped.ge forward never, stopped]
    have spent : 0 ≤ times.sum := List.sum_nonneg forward
    exact ⟨le_max_left _ _, max_le (by norm_num) (by linarith)⟩
  · rw [remaining_of_lastSets forward set]
    obtain ⟨earlier, elapsed, deed, rfl, -⟩ := set
    have spent : 0 ≤ later.sum := List.sum_nonneg fun time listed =>
      forward time (List.mem_append_right _ (List.mem_cons_of_mem _ listed))
    have byte : (ticks.toNat : Rat) ≤ 255 := by exact_mod_cast Nat.le_of_lt_succ ticks.toNat_lt
    exact ⟨le_max_left _ _, max_le (by norm_num) (by linarith)⟩

/-- The instruction that reads the delay timer finds the time of its own cycle counted. -/
theorem get_of_readDelay {actor : Machine Rat δ ρ β} {x : UInt8}
    (bounded : (machine.cycle elapsed).1.remaining .delay ≤ 255)
    (acted : machine.deed? (.cycle elapsed) = some (.executed actor (.readDelay x))) :
    ∃ byte, (machine.cycle elapsed).1.registers.get x = .ok byte ∧
      byte.toNat = ⌊(machine.cycle elapsed).1.remaining .delay⌋₊ := by
  obtain ⟨-, next, -, after⟩ := cycle_of_deed? acted
  have small : x.toNat < 16 := by
    have fits := actor.nextInstruction_inRange.nibble_lt
    rw [next] at fits
    exact fits x (List.mem_singleton_self x)
  have written : (machine.cycle elapsed).1.registers =
      actor.fetched.registers.put (Registers.place x) actor.registers.delay.ticks := by
    rw [after]
    rfl
  have delay_eq : (machine.cycle elapsed).1.remaining .delay = actor.registers.delay.remaining :=
    congrArg (·.delay.remaining) written
  rw [delay_eq] at bounded ⊢
  rw [written, Registers.get_of_lt _ small, Registers.value_put_self]
  exact ⟨_, rfl, Timer.toNat_ticks bounded⟩

/-- A machine with stopped timers is given times none of which is negative. Either no
instruction sets a timer, and then it stays at zero, or the last one that does so sets it to
some ticks, of which sixty for each second of the later cycles are gone, down to zero. The
instruction that reads the delay timer puts the whole ticks behind its own cycle into its
register. What remains is never negative and never more than a byte, a timer that has run
down stays so until it is set, and two machines on which the timer was last set to the same
show the same if the times of the later cycles add up to the same. -/
theorem timers_follow_time (stopped : ∀ name, machine.remaining name = 0)
    (forward : ∀ time ∈ times, 0 ≤ time) (name : TimerName) :
    let after := (machine.run (times.map .cycle)).1
    (machine.NeverSets name times ∨ ∃ ticks later, machine.LastSets name times ticks later) ∧
      (machine.NeverSets name times → after.remaining name = 0) ∧
      (∀ ticks later, machine.LastSets name times ticks later →
        after.remaining name = max 0 ((ticks.toNat : Rat) - 60 * later.sum)) ∧
      (∀ earlier elapsed actor x, times = earlier ++ [elapsed] →
        (machine.run (earlier.map .cycle)).1.deed? (.cycle elapsed) =
          some (.executed actor (.readDelay x)) →
        ∃ byte, after.registers.get x = .ok byte ∧
          byte.toNat = ⌊after.remaining .delay⌋₊) ∧
      (0 ≤ after.remaining name ∧ after.remaining name ≤ 255) ∧
      (∀ more : List Rat, (∀ time ∈ more, 0 ≤ time) → after.remaining name = 0 →
        after.NeverSets name more → (after.run (more.map .cycle)).1.remaining name = 0) ∧
      ∀ (other : Machine Rat δ ρ β) (slices : List Rat), (∀ time ∈ slices, 0 ≤ time) →
        ∀ ticks later later', machine.LastSets name times ticks later →
          other.LastSets name slices ticks later' → later.sum = later'.sum →
          after.remaining name = (other.run (slices.map .cycle)).1.remaining name := by
  intro after
  have unset : ∀ (machine : Machine Rat δ ρ β) (times : List Rat), (∀ time ∈ times, 0 ≤ time) →
      machine.remaining name = 0 → machine.NeverSets name times →
      (machine.run (times.map .cycle)).1.remaining name = 0 := by
    intro machine times forward down never
    have spent : 0 ≤ times.sum := List.sum_nonneg forward
    rw [remaining_of_neverSets down.ge forward never, down]
    exact max_eq_left (by linarith)
  refine ⟨machine.neverSets_or_lastSets name times, unset machine times forward (stopped name),
    fun _ _ => remaining_of_lastSets forward, ?read, remaining_bounds (stopped name) forward,
    unset after, ?slices⟩
  case read =>
    rintro earlier elapsed actor x rfl acted
    have bounded : after.remaining .delay ≤ 255 := (remaining_bounds (stopped .delay) forward).2
    have after_eq : after = ((machine.run (earlier.map .cycle)).1.cycle elapsed).1 :=
      machine.run_cycles_concat earlier elapsed
    rw [after_eq] at bounded ⊢
    exact get_of_readDelay bounded acted
  case slices =>
    intro other slices slices_forward ticks later later' set set' sum_eq
    rw [remaining_of_lastSets forward set, remaining_of_lastSets slices_forward set', sum_eq]

/-- A program that sets the delay timer to five ticks and reads it a tick later, when four of them
are left. -/
theorem timers_follow_time_of_read :
    ∃ machine : Machine Rat HeadlessDisplay ByteCycle BuzzerTape,
      (∀ name, machine.remaining name = 0) ∧
        let after := (machine.run ([1 / 60, 1 / 60, 1 / 60].map .cycle)).1
        after.remaining .delay = 4 ∧ after.registers.get 1 = .ok 4 := by
  -- What is computed is stated first, so that no machine need be looked into afterwards.
  obtain ⟨machine, delay, sound, sets, due, reads⟩ :
      ∃ machine : Machine Rat HeadlessDisplay ByteCycle BuzzerTape,
        machine.remaining .delay = 0 ∧ machine.remaining .sound = 0 ∧
          ((machine.run ([1 / 60].map .cycle)).1.deed? (.cycle (1 / 60))).bind
            (Deed.sets? .delay) = some 5 ∧
          (machine.run ([1 / 60, 1 / 60].map .cycle)).1.isEarly (1 / 60) = false ∧
          ((machine.run ([1 / 60, 1 / 60].map .cycle)).1.clocked (1 / 60)).tick.2 =
            .ok (.readDelay 1) := by
    let unloaded : Machine Rat HeadlessDisplay ByteCycle BuzzerTape :=
      fresh { instructionsPerSecond := 60, memorySize := 518 } {} (.ofBytes 0 []) {}
    refine ⟨(unloaded.loadRom [0x60, 0x05, 0xF0, 0x15, 0xF1, 0x07]).1, ?_⟩
    decide +kernel
  have stopped : ∀ name, machine.remaining name = 0 := by
    rintro (_ | _)
    · exact delay
    · exact sound
  have forward : ∀ time ∈ ([1 / 60, 1 / 60, 1 / 60] : List Rat), 0 ≤ time := by decide +kernel
  obtain ⟨setter, acted, five⟩ := Option.bind_eq_some_iff.mp sets
  have reader := deed?_of_cycle due reads
  have never : (machine.run ([1 / 60, 1 / 60].map .cycle)).1.NeverSets .delay [1 / 60] := by
    refine neverSets_cons_iff.mpr ⟨?_, fun _ listed => by cases listed⟩
    rw [reader]
    rfl
  obtain ⟨-, -, since, read, -⟩ := timers_follow_time stopped forward .delay
  refine ⟨machine, stopped, ?_⟩
  intro after
  have remaining_eq : after.remaining .delay = 4 := by
    have ticks : (5 : UInt8).toNat = 5 := rfl
    refine (since 5 [1 / 60] ⟨[1 / 60], 1 / 60, setter, rfl, acted, five, never⟩).trans ?_
    rw [ticks]
    norm_num
  obtain ⟨byte, get_eq, whole⟩ := read [1 / 60, 1 / 60] (1 / 60) _ 1 rfl reader
  change byte.toNat = ⌊after.remaining .delay⌋₊ at whole
  rw [remaining_eq, Nat.floor_ofNat] at whole
  have byte_eq : byte = 4 := UInt8.toNat_inj.mp whole
  exact ⟨remaining_eq, byte_eq ▸ get_eq⟩

end Runs

end Machine

end Chip8
