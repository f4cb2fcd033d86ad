/-
# More memory changes no good run

Two new machines differ in the size of their memories, and possibly in their rates. What
happens to them is the same sequence of events, in which every program that is put into
memory fits the smaller one. As long as the smaller machine never meets the end of its
memory, the larger one gives the same answers and has the same state, except for bytes that
the smaller one does not have. These are still zero.

The rates only matter to cycles. A run that has some is compared for equal rates, a run of
ticks for any.
-/

import Chip8.Proofs.Machine.Subroutine
import Chip8.Proofs.Memory.Extension

namespace Chip8

/-- Whether an answer reports the end of the memory. -/
def Answer.OutOfBounds (answer : Answer) : Prop :=
  ∃ address length capacity, answer.fault? = some (.outOfBounds address length capacity)

/-- Whether a cause is the end of the memory. -/
def Stop.OutOfBounds (stop : Stop) : Prop :=
  ∃ address length capacity, stop = .fault (.outOfBounds address length capacity)

namespace Machine

variable {τ δ ρ β : Type}

/-- The second machine is the first one with a memory that extends its memory, and perhaps
at another rate. -/
def Enlarges (small large : Machine τ δ ρ β) : Prop :=
  ∃ memory period, small.memory.Extends memory ∧ large = { small with memory, period }

namespace Enlarges

variable {small large : Machine τ δ ρ β} {instruction : Instruction}

/-! ## What stops, and what loads -/

/-- A span at which the smaller memory does not end is refused by neither. -/
theorem spanFault?_eq_none {memory memory' : Memory} {address : UInt16} {length : Nat}
    (larger : memory.Extends memory')
    (inside : ∀ stop, (memory.spanFault? address length).map Stop.fault = some stop →
      ¬ stop.OutOfBounds) :
    memory.spanFault? address length = none ∧ memory'.spanFault? address length = none := by
  have accepted : memory.spanFault? address length = none := by
    cases refused : memory.spanFault? address length with
    | none => rfl
    | some fault =>
        rw [refused] at inside
        refine absurd ?_ (inside _ rfl)
        rw [Memory.spanFault?] at refused
        split at refused
        · cases refused
          exact ⟨_, _, _, rfl⟩
        · cases refused
  exact ⟨accepted, larger.spanFault?_eq_none accepted⟩

theorem stop?_eq (enlarges : Enlarges small large)
    (inside : ∀ stop, small.stop? instruction = some stop → ¬ stop.OutOfBounds) :
    large.stop? instruction = small.stop? instruction := by
  obtain ⟨memory, period, larger, rfl⟩ := enlarges
  cases instruction with
  | draw x y height | storeDigits x | storeRegisters x | loadRegisters x =>
      obtain ⟨accepted, accepted'⟩ := spanFault?_eq_none larger inside
      exact congrArg (Option.map Stop.fault) (accepted'.trans accepted.symm)
  | _ => rfl

theorem loadRom (enlarges : Enlarges small large) {rom : List UInt8}
    (fits : rom.length ≤ small.memory.capacity - romStart)
    (roomy : romStart ≤ small.memory.capacity) :
    Enlarges (small.loadRom rom).1 (large.loadRom rom).1 ∧
      (large.loadRom rom).2 = (small.loadRom rom).2 := by
  obtain ⟨memory, period, larger, rfl⟩ := enlarges
  obtain ⟨before, after, stored, stored', larger'⟩ := larger.loadRom fits roomy
  simp only [Machine.loadRom, stored, stored']
  exact ⟨⟨after, period, larger', rfl⟩, trivial⟩

variable [Display δ] [ScreenDisplay δ]

theorem takeKeys (enlarges : Enlarges small large) (keys : Except Breach Keypad) :
    Enlarges (small.takeKeys keys).1 (large.takeKeys keys).1 ∧
      (large.takeKeys keys).2 = (small.takeKeys keys).2 := by
  obtain ⟨memory, period, larger, rfl⟩ := enlarges
  cases keys with
  | ok keys => exact ⟨⟨memory, period, larger, rfl⟩, rfl⟩
  | error breach => exact ⟨⟨memory, period, larger, rfl⟩, rfl⟩

/-! ## Instructions -/

theorem await (enlarges : Enlarges small large) (x : UInt8) :
    Enlarges (small.await x) (large.await x) := by
  obtain ⟨memory, period, larger, rfl⟩ := enlarges
  apply await_related Enlarges
  · rfl
  · rfl
  · exact ⟨memory, period, larger, rfl⟩
  · intro key
    exact ⟨memory, period, larger, rfl⟩
  · intro key
    exact ⟨memory, period, larger, rfl⟩

variable [Seconds τ] [RandomSource ρ]

theorem effect (enlarges : Enlarges small large) (unstopped : small.stop? instruction = none) :
    Enlarges (small.effect instruction) (large.effect instruction) := by
  cases instruction with
  | awaitKey x => exact enlarges.await x
  | draw x y height =>
      obtain ⟨memory, period, larger, rfl⟩ := enlarges
      have inside := Option.map_eq_none_iff.mp unstopped
      refine ⟨memory, period, larger, ?_⟩
      simp only [Machine.effect, drawn, larger.span_eq (Nat.le_of_lt height.toNat_lt) inside]
  | storeDigits x =>
      obtain ⟨memory, period, larger, rfl⟩ := enlarges
      have inside := Option.map_eq_none_iff.mp unstopped
      have three : 3 ≤ 256 := by decide
      exact ⟨_, period, larger.withOverlay three inside, rfl⟩
  | storeRegisters x =>
      obtain ⟨memory, period, larger, rfl⟩ := enlarges
      have inside : small.memory.spanFault? small.registers.index (x.toNat + 1) = none :=
        Option.map_eq_none_iff.mp unstopped
      -- What is written is no longer than the span that was checked.
      have count : (small.registers.values.toList.take (x.toNat + 1)).length ≤ x.toNat + 1 :=
        List.length_take_le _ _
      have wide : x.toNat < 256 := x.toNat_lt
      refine ⟨_, period, larger.withOverlay (by omega) ?_, rfl⟩
      rw [Memory.spanFault?_eq_none_iff] at inside ⊢
      omega
  | loadRegisters x =>
      obtain ⟨memory, period, larger, rfl⟩ := enlarges
      have inside := Option.map_eq_none_iff.mp unstopped
      refine ⟨memory, period, larger, ?_⟩
      simp only [Machine.effect, larger.loaded_eq inside]
  | _ =>
      obtain ⟨memory, period, larger, rfl⟩ := enlarges
      exact ⟨memory, period, larger, rfl⟩

/-! ## Ticks and cycles -/

theorem tick (enlarges : Enlarges small large)
    (inside : ∀ stop, small.tick.2 = .error stop → ¬ stop.OutOfBounds) :
    Enlarges small.tick.1 large.tick.1 ∧ large.tick.2 = small.tick.2 := by
  have fetch : ∀ stop, small.fetchFault?.map Stop.fault = some stop → ¬ stop.OutOfBounds := by
    intro stop refused
    obtain ⟨fault, met, rfl⟩ := Option.map_eq_some_iff.mp refused
    exact inside _ (congrArg Prod.snd (tick_of_fetchFault met))
  have execute : small.fetchFault? = none → ∀ stop,
      small.stop? small.nextInstruction = some stop → ¬ stop.OutOfBounds := by
    intro fetches stop stopped
    apply inside
    rw [tick_of_inside fetches, stopped]
  obtain ⟨memory, period, larger, large_eq⟩ := id enlarges
  obtain ⟨accepted, accepted'⟩ := spanFault?_eq_none larger fetch
  have word_eq := larger.word_eq accepted
  have fetched : Enlarges small.fetched large.fetched := by
    refine ⟨memory, period, larger, ?_⟩
    rw [large_eq]
    simp only [Machine.fetched, nextInstruction, nextWord, word_eq]
  apply tick_related Enlarges
  · rw [large_eq]
    exact accepted'.trans accepted.symm
  · exact enlarges
  · intro _
    rw [large_eq, nextInstruction, nextWord, word_eq]
    rfl
  · exact fun fetches => enlarges.stop?_eq (execute fetches)
  · exact fun _ => fetched
  · exact fun _ unstopped => fetched.effect (stop?_fetched.trans unstopped)

variable [Buzzer β]

/-- If an instruction takes the same time on both, a cycle does the same on both. -/
theorem cycle (enlarges : Enlarges small large) (period_eq : small.period = large.period)
    (elapsed : τ) (inside : ∀ stop, (small.cycle elapsed).2 = .error stop → ¬ stop.OutOfBounds) :
    Enlarges (small.cycle elapsed).1 (large.cycle elapsed).1 ∧
      (large.cycle elapsed).2 = (small.cycle elapsed).2 := by
  obtain ⟨memory, period, larger, rfl⟩ := enlarges
  obtain rfl : small.period = period := period_eq
  apply cycle_related Enlarges
  · rfl
  · exact ⟨memory, small.period, larger, rfl⟩
  · intro due
    have clocked : Enlarges (small.clocked elapsed)
        ({ small with memory, period := small.period }.clocked elapsed) :=
      ⟨memory, small.period, larger, rfl⟩
    apply clocked.tick
    intro stop stopped
    apply inside
    rw [cycle_of_stop due stopped]
  · rintro after _ ⟨memory, period, larger, rfl⟩
    exact ⟨memory, period, larger, rfl⟩

/-! ## Events and runs -/

theorem respond (enlarges : Enlarges small large) {event : Event τ}
    (roomy : romStart ≤ small.memory.capacity)
    (fits : ∀ rom, event = .load rom → rom.length ≤ small.memory.capacity - romStart)
    (paced : ∀ elapsed, event = .cycle elapsed → small.period = large.period)
    (inside : ¬ (small.respond event).2.OutOfBounds) :
    Enlarges (small.respond event).1 (large.respond event).1 ∧
      (large.respond event).2 = (small.respond event).2 := by
  have keypad_eq : ScreenDisplay.keypad large.display = ScreenDisplay.keypad small.display := by
    obtain ⟨memory, period, larger, rfl⟩ := enlarges
    rfl
  cases event with
  | load rom =>
      obtain ⟨loaded, answer_eq⟩ := enlarges.loadRom (fits rom rfl) roomy
      exact ⟨loaded, congrArg Answer.loaded answer_eq⟩
  | tick =>
      obtain ⟨ticked, answer_eq⟩ := enlarges.tick fun stop stopped => by
        rintro ⟨address, length, capacity, rfl⟩
        exact inside ⟨address, length, capacity, congrArg metFault? stopped⟩
      exact ⟨ticked, congrArg Answer.ticked answer_eq⟩
  | cycle elapsed =>
      obtain ⟨cycled, answer_eq⟩ := enlarges.cycle (paced elapsed rfl) elapsed
        fun stop stopped => by
          rintro ⟨address, length, capacity, rfl⟩
          exact inside ⟨address, length, capacity, congrArg metFault? stopped⟩
      exact ⟨cycled, congrArg Answer.cycled answer_eq⟩
  | press key | release key | update batch =>
      rw [Machine.respond, Machine.respond, keypad_eq]
      exact enlarges.takeKeys _

theorem run (enlarges : Enlarges small large) {events : List (Event τ)}
    (consistent : small.Consistent) (roomy : romStart ≤ small.memory.capacity)
    (fits : ∀ rom, .load rom ∈ events → rom.length ≤ small.memory.capacity - romStart)
    (paced : ∀ elapsed, .cycle elapsed ∈ events → small.period = large.period)
    (inside : ∀ answer ∈ (small.run events).2, ¬ answer.OutOfBounds) :
    Enlarges (small.run events).1 (large.run events).1 ∧
      (large.run events).2 = (small.run events).2 := by
  induction events generalizing small large with
  | nil => exact ⟨enlarges, rfl⟩
  | cons event rest ih =>
      obtain ⟨here, later⟩ := List.forall_mem_cons.mp inside
      obtain ⟨responded, answer_eq⟩ := enlarges.respond roomy
        (fun rom same => fits rom (same ▸ List.mem_cons_self))
        (fun elapsed same => paced elapsed (same ▸ List.mem_cons_self)) here
      have capacity_eq := respond_capacity consistent event
      obtain ⟨final, answers_eq⟩ := ih responded (consistent.respond event)
        (by rwa [capacity_eq])
        (fun rom listed => by
          rw [capacity_eq]
          exact fits rom (List.mem_cons_of_mem _ listed))
        (fun elapsed listed => by
          rw [respond_period, respond_period]
          exact paced elapsed (List.mem_cons_of_mem _ listed))
        later
      refine ⟨final, ?_⟩
      simp only [Machine.run, answer_eq, answers_eq]

end Enlarges

variable [Seconds τ] [Display δ] [ScreenDisplay δ] [RandomSource ρ] [Buzzer β]

/-- New machines with the same dialect, of which the second has no less memory, and a sequence
of events in which every program fits the first one. If an instruction takes the same time on
both, or if there are no cycles among the events, and if the first machine never answers that
it met the end of its memory, then the second gives the same answers and ends as the first
does, except for its rate and for its memory. There it has the bytes of the first one, and
zeros where the first one has none. -/
theorem run_of_larger_memory {config config' : Config} {display : δ} {random : ρ} {buzzer : β}
    {small large : Machine τ δ ρ β} (larger : config.memorySize ≤ config'.memorySize)
    (dialect_eq : config.dialect = config'.dialect)
    (built : start config display random buzzer = .ok small)
    (built' : start config' display random buzzer = .ok large) {events : List (Event τ)}
    (fits : ∀ rom, .load rom ∈ events → rom.length ≤ config.memorySize - romStart)
    (paced : ∀ elapsed, .cycle elapsed ∈ events →
      config.instructionsPerSecond = config'.instructionsPerSecond)
    (inside : ∀ answer ∈ (small.run events).2, ¬ answer.OutOfBounds) :
    let final := (small.run events).1
    (large.run events).2 = (small.run events).2 ∧
      ∃ memory period, (large.run events).1 = { final with memory, period } ∧
        (∀ place < config.memorySize, memory.byteAt place = final.memory.byteAt place) ∧
        ∀ place, config.memorySize ≤ place → place < config'.memorySize →
          memory.byteAt place = 0 := by
  intro final
  obtain ⟨roomy, rfl⟩ := eq_fresh_of_start built
  obtain ⟨-, rfl⟩ := eq_fresh_of_start built'
  have begun : Enlarges (fresh config display random buzzer : Machine τ δ ρ β)
      (fresh config' display random buzzer) := by
    refine ⟨_, config'.instructionPeriod, Memory.extends_fresh roomy larger, ?_⟩
    simp only [fresh, dialect_eq]
  have period_eq : ∀ elapsed, .cycle elapsed ∈ events →
      (config.instructionPeriod : τ) = config'.instructionPeriod := by
    intro elapsed listed
    rw [Config.instructionPeriod, paced elapsed listed]
    rfl
  obtain ⟨⟨memory, period, extended, final_eq⟩, answers_eq⟩ :=
    begun.run consistent_fresh roomy fits period_eq inside
  have capacity_eq : final.memory.capacity = config.memorySize := by
    refine (run_invariant (fun after => after.memory.capacity = config.memorySize) ?_
      consistent_fresh rfl).2
    intro after event _ known kept
    exact (respond_capacity known event).trans kept
  rw [← capacity_eq]
  exact ⟨answers_eq, memory, period, final_eq, extended.byteAt_eq, fun place behind _ =>
    extended.byteAt_zero place behind⟩

/-- A program that stores a register, and a key, on a machine that ends behind the program and
on one with more memory. -/
theorem run_of_eight_more_bytes :
    ∃ small large : Machine Rat HeadlessDisplay ByteCycle BuzzerTape,
      start { memorySize := 516 } {} (.ofBytes 0 []) {} = .ok small ∧
        start { memorySize := 524 } {} (.ofBytes 0 []) {} = .ok large ∧
        let events := [.load [0x60, 0x07, 0xF0, 0x55], .tick, .press 3, .tick]
        (large.run events).2 = (small.run events).2 ∧
          (large.run events).1.memory.byteAt 520 = 0 := by
  let events : List (Event Rat) := [.load [0x60, 0x07, 0xF0, 0x55], .tick, .press 3, .tick]
  let config : Config := { memorySize := 516 }
  let config' : Config := { memorySize := 524 }
  let small : Machine Rat HeadlessDisplay ByteCycle BuzzerTape :=
    fresh config {} (.ofBytes 0 []) {}
  let large : Machine Rat HeadlessDisplay ByteCycle BuzzerTape :=
    fresh config' {} (.ofBytes 0 []) {}
  have built : start config {} (.ofBytes 0 []) {} = .ok small :=
    start_eq_fresh _ _ _ _ (by decide) (by decide)
  have built' : start config' {} (.ofBytes 0 []) {} = .ok large :=
    start_eq_fresh _ _ _ _ (by decide) (by decide)
  have larger : config.memorySize ≤ config'.memorySize := by decide
  have faultless : (small.run events).2.map Answer.fault? = [none, none, none, none] := by
    decide +kernel
  have fits : ∀ rom, .load rom ∈ events → rom.length ≤ config.memorySize - romStart := by
    intro rom listed
    obtain rfl : rom = [0x60, 0x07, 0xF0, 0x55] := by simpa [events] using listed
    decide
  have paced : ∀ elapsed, .cycle elapsed ∈ events →
      config.instructionsPerSecond = config'.instructionsPerSecond := fun _ _ => rfl
  have inside : ∀ answer ∈ (small.run events).2, ¬ answer.OutOfBounds := by
    rintro answer listed ⟨address, length, capacity, met⟩
    have unmet := List.mem_map_of_mem (f := Answer.fault?) listed
    rw [faultless, met] at unmet
    simp at unmet
  obtain ⟨answers_eq, memory, period, final_eq, -, zero⟩ :=
    run_of_larger_memory larger rfl built built' fits paced inside
  refine ⟨small, large, built, built', answers_eq, ?_⟩
  rw [final_eq]
  exact zero 520 (by decide) (by decide)

end Machine

end Chip8
