/-
# The latched key

Which key an instruction waits for is remembered in the machine and not in the
instruction, so nothing in its type keeps the memory of one from being taken up by
another. That it never happens is an invariant of every run: while a key is latched,
the program counter is at an instruction that waits, and the register of that
instruction holds the key.

It is preserved because nothing else is executed in the meantime. A tick that waits
ends where it began, so the next one meets the same instruction, and this one meets no
fault. A host may do what it likes around the ticks, except that it may not load
another program while one waits.
-/

import Chip8.Proofs.Machine.Run

namespace Chip8.Machine

variable {τ δ ρ β : Type}

/-- A key that is latched belongs to the instruction at the program counter: that one
waits for a key, and its register holds the one that is latched. -/
def LatchBelongs (machine : Machine τ δ ρ β) : Prop :=
  ∀ key, machine.awaitedKey = some key →
    key.toNat < 16 ∧ machine.registers.pc.toNat + 2 ≤ machine.memory.capacity ∧
      ∃ x, machine.nextInstruction = .awaitKey x ∧ machine.registers.get x = .ok key

variable {machine : Machine τ δ ρ β}

/-- Without a latched key there is nothing to say. -/
theorem latchBelongs_of_none (unlatched : machine.awaitedKey = none) : machine.LatchBelongs := by
  intro key latched
  rw [unlatched] at latched
  cases latched

/-- A latch belongs to the program and not to what surrounds it. -/
theorem LatchBelongs.within (belongs : machine.LatchBelongs) (around : Surroundings τ δ β) :
    (machine.within around).LatchBelongs :=
  belongs

/-! ## Ticks that wait -/

/-- Behind a fetch, going back to the instruction leaves only the report of it. -/
theorem repeatInstruction_fetched (machine : Machine τ δ ρ β) :
    machine.fetched.repeatInstruction = { machine with journal := machine.fetched.journal } := by
  have back : machine.registers.pc + 2 - 2 = machine.registers.pc := UInt16.add_sub_cancel _ _
  rw [repeatInstruction, Registers.retreat, fetched, back]

/-- Behind a fetch, latching a key leaves the program counter where it was before. -/
theorem latch_fetched (machine : Machine τ δ ρ β) (x key : UInt8) :
    machine.fetched.latch x key =
      { machine with
        awaitedKey := some key
        registers := machine.registers.put (Registers.place x) key
        journal := machine.fetched.journal.push (.keyLatched key) } := by
  have back : machine.registers.pc + 2 - 2 = machine.registers.pc := UInt16.add_sub_cancel _ _
  rw [latch, record, Registers.put, Registers.retreat, fetched, back]
  rfl

section Tick

variable {x key : UInt8}

/-- What is latched there belongs to the instruction. -/
theorem latchBelongs_latch (named : key.toNat < 16)
    (inside : machine.registers.pc.toNat + 2 ≤ machine.memory.capacity)
    (waits : machine.nextInstruction = .awaitKey x) :
    (machine.fetched.latch x key).LatchBelongs := by
  have small : x.toNat < 16 := by
    have fits := (Instruction.decode_inRange machine.nextWord).nibble_lt
    rw [nextInstruction] at waits
    rw [waits] at fits
    exact fits x (List.mem_singleton_self x)
  rw [latch_fetched]
  intro other latched
  obtain rfl : key = other := Option.some.inj latched
  refine ⟨named, inside, x, waits, ?_⟩
  rw [Registers.get_of_lt _ small, Registers.value_put_self]

variable [Display δ] [ScreenDisplay δ]

/-- An instruction that waits without a latched key latches one that belongs to it, or
latches none. -/
theorem latchBelongs_await (inside : machine.registers.pc.toNat + 2 ≤ machine.memory.capacity)
    (waits : machine.nextInstruction = .awaitKey x) (unlatched : machine.awaitedKey = none) :
    (machine.fetched.await x).LatchBelongs := by
  have forgotten : machine.fetched.awaitedKey = none := unlatched
  simp only [await, forgotten]
  cases found : machine.fetched.firstDown? with
  | none => exact latchBelongs_of_none unlatched
  | some key => exact latchBelongs_latch (toNat_lt_of_firstDown? found) inside waits

variable [Seconds τ] [RandomSource ρ]

/-- A tick at an instruction that waits runs that instruction. -/
theorem tick_of_awaitKey
    (latch_lt : ∀ key, machine.awaitedKey = some key → key.toNat < 16)
    (inside : machine.registers.pc.toNat + 2 ≤ machine.memory.capacity)
    (waits : machine.nextInstruction = .awaitKey x) :
    machine.tick = (machine.fetched.await x, .ok (.awaitKey x)) := by
  rw [tick_of_inside (fetchFault?_eq_none_iff.mpr inside), waits, stop?_awaitKey_of_lt latch_lt]
  rfl

/-- While a key is latched, every tick runs the instruction that waits for it. Either
nothing happens, or the key has come up and is latched no longer. -/
theorem tick_of_latched (consistent : machine.Consistent)
    (inside : machine.registers.pc.toNat + 2 ≤ machine.memory.capacity)
    (waits : machine.nextInstruction = .awaitKey x) (latched : machine.awaitedKey = some key) :
    machine.tick.2 = .ok (.awaitKey x) ∧
      (machine.tick.1 = { machine with journal := machine.fetched.journal } ∨
        machine.tick.1.awaitedKey = none) := by
  rw [tick_of_awaitKey consistent.latch_lt inside waits]
  refine ⟨rfl, ?_⟩
  have remembered : machine.fetched.awaitedKey = some key := latched
  simp only [await, remembered]
  split
  · exact .inl machine.repeatInstruction_fetched
  · exact .inr rfl

/-- Any other instruction than one that waits finds no latched key and leaves none. -/
theorem tick_unlatched (consistent : machine.Consistent)
    (other : ∀ x, machine.nextInstruction ≠ .awaitKey x) :
    machine.tick.1.awaitedKey = machine.awaitedKey := by
  rw [tick_eq consistent]
  split
  · rfl
  · split
    · rfl
    · exact effect_awaitedKey other

/-- One tick preserves that the latch belongs to the instruction at the program counter. -/
theorem LatchBelongs.tick (belongs : machine.LatchBelongs) (consistent : machine.Consistent) :
    machine.tick.1.LatchBelongs := by
  cases latched : machine.awaitedKey with
  | some key =>
      obtain ⟨-, inside, x, waits, -⟩ := belongs key latched
      obtain ⟨-, stays | cleared⟩ := tick_of_latched consistent inside waits latched
      · rw [stays]
        exact belongs
      · exact latchBelongs_of_none cleared
  | none =>
      -- Only an instruction that waits can latch a key, and where it does, it is the one
      -- that the next tick meets again.
      by_cases waiting : ∃ x, machine.nextInstruction = .awaitKey x
      · obtain ⟨x, waits⟩ := waiting
        cases refused : machine.fetchFault? with
        | some fault =>
            rw [tick_of_fetchFault refused]
            exact belongs
        | none =>
            have inside := fetchFault?_eq_none_iff.mp refused
            rw [tick_of_awaitKey consistent.latch_lt inside waits]
            exact latchBelongs_await inside waits latched
      · have kept := tick_unlatched consistent (not_exists.mp waiting)
        exact latchBelongs_of_none (kept.trans latched)

end Tick

/-! ## Runs -/

variable [Seconds τ] [Display δ] [ScreenDisplay δ] [RandomSource ρ] [Buzzer β]

/-- No event but loading a program can part a latched key from its instruction. -/
theorem LatchBelongs.respond (belongs : machine.LatchBelongs) (consistent : machine.Consistent)
    {event : Event τ} (keeps : ¬ event.IsLoad) : (machine.respond event).1.LatchBelongs := by
  apply respond_invariant LatchBelongs
  · intro after known ties
    exact ties.tick known
  · intro after around ties
    exact ties.within around
  · rintro rom rfl
    exact absurd trivial keeps
  · exact consistent
  · exact belongs

/-- Whatever ticks, cycles and keys follow the loading of a program, a latched key is
one of the sixteen and belongs to the instruction at the program counter, whose two
bytes are in the memory. So the next tick runs that instruction, whatever else has
happened, and after it the machine is as it was or no key is latched. -/
theorem latch_of_run {config : Config} {display : δ} {random : ρ} {buzzer : β}
    {unloaded : Machine τ δ ρ β} {events : List (Event τ)} {key : UInt8} (rom : List UInt8)
    (built : start config display random buzzer = .ok unloaded)
    (keep : ∀ event ∈ events, ¬ event.IsLoad)
    (latched : ((unloaded.loadRom rom).1.run events).1.awaitedKey = some key) :
    let machine := ((unloaded.loadRom rom).1.run events).1
    key.toNat < 16 ∧ machine.registers.pc.toNat + 2 ≤ machine.memory.capacity ∧
      ∃ high low x,
        machine.memory.bytes[machine.registers.pc.toNat]? = some high ∧
        machine.memory.bytes[machine.registers.pc.toNat + 1]? = some low ∧
        Instruction.decode (.ofBytes high low) = .awaitKey x ∧
        machine.registers.get x = .ok key ∧
        machine.tick.2 = .ok (.awaitKey x) ∧
        (machine.tick.1 = { machine with journal := machine.fetched.journal } ∨
          machine.tick.1.awaitedKey = none) := by
  have loaded : (unloaded.loadRom rom).1.Reachable := .respond (.load rom) (.start built)
  have unlatched : (unloaded.loadRom rom).1.awaitedKey = none := by
    obtain ⟨memory, journal, stored, -⟩ := unloaded.loadRom_eq rom
    rw [stored, (eq_fresh_of_start built).2]
    rfl
  have invariant : ((unloaded.loadRom rom).1.run events).1.Consistent ∧
      ((unloaded.loadRom rom).1.run events).1.LatchBelongs := by
    apply run_invariant LatchBelongs
    · intro after event listed known belongs
      exact belongs.respond known (keep event listed)
    · exact loaded.consistent
    · exact latchBelongs_of_none unlatched
  intro machine
  obtain ⟨consistent, belongs⟩ := invariant
  obtain ⟨named, inside, x, waits, held⟩ := belongs key latched
  obtain ⟨high, low, first, second, word⟩ := exists_nextWord inside
  obtain ⟨answered, after⟩ := tick_of_latched consistent inside waits latched
  have decoded : Instruction.decode (.ofBytes high low) = .awaitKey x := by
    rw [← word]
    exact waits
  exact ⟨named, inside, high, low, x, first, second, decoded, held, answered, after⟩

/-- A key that goes down while the first instruction of a program waits for one. -/
theorem latch_of_pressed_key :
    ∃ (machine : Machine Rat HeadlessDisplay ByteCycle BuzzerTape) (x : UInt8),
      machine.awaitedKey = some 7 ∧ machine.registers.get x = .ok 7 ∧
        machine.tick.2 = .ok (.awaitKey x) := by
  let unloaded : Machine Rat HeadlessDisplay ByteCycle BuzzerTape :=
    fresh { memorySize := 514 } {} (.ofBytes 0 []) {}
  let machine := ((unloaded.loadRom [0xF3, 0x0A]).1.run [.press 7, .cycle 1, .tick]).1
  have built : start { memorySize := 514 } {} (.ofBytes 0 []) {} = .ok unloaded :=
    start_eq_fresh _ _ _ _ (by decide) (by decide)
  have keep : ∀ event ∈ [Event.press 7, .cycle (1 : Rat), .tick], ¬ event.IsLoad := by
    simp [Event.IsLoad]
  have latched : machine.awaitedKey = some 7 := by decide +kernel
  obtain ⟨-, -, high, low, x, -, -, -, held, answered, -⟩ :=
    latch_of_run [0xF3, 0x0A] built keep latched
  exact ⟨machine, x, latched, held, answered⟩

end Chip8.Machine
