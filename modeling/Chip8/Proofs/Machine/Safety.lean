/-
# What a machine can answer

No program can break a contract. Whatever a host loads, and in whatever order it then
ticks, cycles and touches keys, it gets an answer or one of the three faults, also
behind ticks that met a fault. `run_never_breaches` says so of all runs, and also that
nothing fails where this library has no check of its own because it cannot fail.

Which fault it is, and when, is `tick_answer_of_reachable`: the capacity of the memory
and three numbers of the machine decide it.
-/

import Chip8.Proofs.Machine.Run

namespace Chip8.Machine

variable {τ δ ρ β : Type}
variable [Seconds τ] [Display δ] [ScreenDisplay δ] [RandomSource ρ] [Buzzer β]

section Answers

variable {machine : Machine τ δ ρ β}

/-! ## Ticks -/

/-- Where the memory ends decides whether a tick can fetch. If it can, the two bytes at
the program counter name an instruction, and the tick answers with the fault which that
instruction meets, or else with the instruction. No address is reduced modulo anything
before it is compared with the capacity, which may be beyond what addresses reach. -/
theorem tick_answer_of_reachable (reachable : machine.Reachable) :
    romStart ≤ machine.memory.capacity ∧
    (machine.memory.capacity < machine.registers.pc.toNat + 2 →
      machine.tick.2 = .error (.fault
        (.outOfBounds machine.registers.pc.toNat 2 machine.memory.capacity))) ∧
    (machine.registers.pc.toNat + 2 ≤ machine.memory.capacity →
      ∃ high low,
        machine.memory.bytes[machine.registers.pc.toNat]? = some high ∧
        machine.memory.bytes[machine.registers.pc.toNat + 1]? = some low ∧
        machine.tick.2 =
          match machine.fault? (Instruction.decode (.ofBytes high low)) with
          | some fault => .error (.fault fault)
          | none => .ok (Instruction.decode (.ofBytes high low))) := by
  refine ⟨reachable.romStart_le, ?_, ?_⟩
  · intro beyond
    have refused : machine.fetchFault? =
        some (.outOfBounds machine.registers.pc.toNat 2 machine.memory.capacity) :=
      if_pos beyond
    rw [tick_answer reachable.consistent, refused]
  · intro inside
    obtain ⟨high, low, first, second, word⟩ := exists_nextWord inside
    have answered := tick_answer reachable.consistent
    rw [fetchFault?_eq_none_iff.mpr inside, nextInstruction, word] at answered
    exact ⟨high, low, first, second, answered⟩

/-- A program that begins by returning from a subroutine it never entered, in a memory
that ends behind it. -/
theorem tick_answer_of_underflow :
    ∃ machine : Machine Rat HeadlessDisplay ByteCycle BuzzerTape,
      machine.Reachable ∧ romStart ≤ machine.memory.capacity ∧
        machine.tick.2 = .error (.fault .stackUnderflow) := by
  let unloaded : Machine Rat HeadlessDisplay ByteCycle BuzzerTape :=
    fresh { memorySize := 514 } {} (.ofBytes 7 []) {}
  let machine := (unloaded.respond (.load [0x00, 0xEE])).1
  have built : start { memorySize := 514 } {} (.ofBytes 7 []) {} = .ok unloaded :=
    start_eq_fresh _ _ _ _ (by decide) (by decide)
  have reachable : machine.Reachable := .respond _ (.start built)
  obtain ⟨roomy, -, answered⟩ := tick_answer_of_reachable reachable
  obtain ⟨high, low, first, second, outcome⟩ := answered (by decide +kernel)
  have higher : machine.memory.bytes[machine.registers.pc.toNat]? = some 0x00 := by
    decide +kernel
  have lower : machine.memory.bytes[machine.registers.pc.toNat + 1]? = some 0xEE := by
    decide +kernel
  obtain rfl : 0x00 = high := Option.some.inj (higher.symm.trans first)
  obtain rfl : 0xEE = low := Option.some.inj (lower.symm.trans second)
  have decoded : Instruction.decode (.ofBytes 0x00 0xEE) = .ret := by decide
  have met : machine.fault? .ret = some .stackUnderflow := by decide +kernel
  rw [decoded, met] at outcome
  exact ⟨machine, reachable, roomy, outcome⟩

/-! ## Events -/

/-- No event breaks a contract if the keys that it names are keys. -/
theorem respond_breach? {event : Event τ} (consistent : machine.Consistent)
    (named : event.NamesKey) : (machine.respond event).2.breach? = none := by
  cases event with
  | load rom => rfl
  | tick =>
      change (Answer.ticked machine.tick.2).breach? = none
      cases outcome : machine.tick.2 with
      | ok instruction => rfl
      | error stop =>
          obtain ⟨fault, rfl⟩ := fault_of_tick consistent outcome
          rfl
  | cycle elapsed =>
      change (Answer.cycled (machine.cycle elapsed).2).breach? = none
      cases due : machine.isEarly elapsed with
      | true =>
          rw [cycle_of_early due]
          rfl
      | false =>
          have passed : (machine.clocked elapsed).Consistent :=
            ⟨consistent.depth_eq, consistent.latch_lt⟩
          cases outcome : (machine.clocked elapsed).tick.2 with
          | ok instruction =>
              rw [cycle_of_ok due outcome]
              rfl
          | error stop =>
              obtain ⟨fault, rfl⟩ := fault_of_tick passed outcome
              rw [cycle_of_stop due outcome]
              rfl
  | press key =>
      rw [respond, Keypad.press_of_lt _ named]
      rfl
  | release key =>
      rw [respond, Keypad.release_of_lt _ named]
      rfl
  | update batch => rfl

/-- Every event of a run gets one answer, and none of them is a broken contract. -/
theorem run_breach? {events : List (Event τ)} (consistent : machine.Consistent)
    (named : ∀ event ∈ events, event.NamesKey) :
    (machine.run events).2.length = events.length ∧
      ∀ answer ∈ (machine.run events).2, answer.breach? = none := by
  induction events generalizing machine with
  | nil => exact ⟨rfl, fun _ listed => nomatch listed⟩
  | cons event rest ih =>
      have later := ih (consistent.respond event)
        (fun other listed => named other (List.mem_cons_of_mem _ listed))
      refine ⟨congrArg (· + 1) later.1, ?_⟩
      intro answer listed
      rcases List.mem_cons.mp listed with rfl | behind
      · exact respond_breach? consistent (named event List.mem_cons_self)
      · exact later.2 answer behind

end Answers

/-! ## No program breaks a contract -/

/-- There is a machine for every configuration with room for the interpreter, up to the
size of any table. Every run of it that touches only keys is answered without a breach.
At its end, and so after each of its events, no span of memory that was admitted is cut
short, whether it is read or written. Neither do the readers of nibbles and bytes refuse
any place that decoding reads, whatever the word. -/
theorem run_never_breaches (config : Config) (display : δ) (random : ρ) (buzzer : β)
    (events : List (Event τ)) (named : ∀ event ∈ events, event.NamesKey) :
    (romStart ≤ config.memorySize → config.memorySize ≤ tableLimit →
      ∃ machine : Machine τ δ ρ β, start config display random buzzer = .ok machine) ∧
    (∀ machine : Machine τ δ ρ β, start config display random buzzer = .ok machine →
      (machine.run events).2.length = events.length ∧
      (∀ answer ∈ (machine.run events).2, answer.breach? = none) ∧
      (∀ address length found, length ≤ 256 →
        (machine.run events).1.memory.read address length = .ok found →
        found.length = length) ∧
      ∀ address (data : List UInt8) after, data.length ≤ 256 →
        (machine.run events).1.memory.write address data = .ok after →
        after.read address data.length = .ok data) ∧
    (∀ (op : Opcode) (place : Fin 4),
      op.nibble (.ofNat place.val) = .ok (op.nibbleAt place)) ∧
    ∀ (op : Opcode) (place : Fin 2), op.byte (.ofNat place.val) = .ok (op.byteAt place) := by
  refine ⟨?_, ?_, Opcode.nibble_eq_ok, Opcode.byte_eq_ok⟩
  · intro roomy bounded
    exact ⟨_, start_eq_fresh config display random buzzer roomy bounded⟩
  · intro machine built
    have consistent := (Reachable.start built).consistent
    obtain ⟨answered, kept⟩ := run_breach? consistent named
    refine ⟨answered, kept, ?_, ?_⟩
    · intro address length found small admitted
      exact Memory.length_of_read small admitted
    · intro address data after small admitted
      exact Memory.read_of_write small admitted

/-- A run that waits for a key, and goes on behind the fault at the end of its program. -/
theorem waiting_run_never_breaches :
    ∃ machine : Machine Rat HeadlessDisplay ByteCycle BuzzerTape,
      start {} {} (.ofBytes 7 []) {} = .ok machine ∧
        ∀ answer ∈ (machine.run [.load [0xF0, 0x0A, 0x00, 0xEE], .tick, .press 3, .cycle 1,
          .release 3, .tick, .tick, .update ⟨[], []⟩, .cycle 1]).2, answer.breach? = none := by
  obtain ⟨exists_machine, safe, -⟩ := run_never_breaches {} ({} : HeadlessDisplay)
    (ByteCycle.ofBytes 7 []) ({} : BuzzerTape)
    [.load [0xF0, 0x0A, 0x00, 0xEE], .tick, .press 3, .cycle (1 : Rat),
      .release 3, .tick, .tick, .update ⟨[], []⟩, .cycle 1] (by decide)
  obtain ⟨machine, built⟩ := exists_machine (by decide) (by decide)
  exact ⟨machine, built, (safe machine built).2.1⟩

end Chip8.Machine
