/-
# Time reaches a program through the delay timer only

Two machines run the same program with the same random bytes and the same batches of keys,
but at different rates, with different times between their cycles, and even with different
ways to keep time. Nothing is assumed about the arithmetic of either: sums may be rounded,
time may run backwards, and comparisons may answer anything. Still the program cannot tell
one machine from the other until it reads the delay timer.

What depends on time is how often the host is called. That is counted for one machine at a
time, and comes to one call to the buzzer for each cycle, and to one frame and one poll for
each cycle that ran an instruction.
-/

import Chip8.Proofs.Machine.Attempts
import Chip8.Proofs.Machine.Calls

namespace Chip8.Machine

variable {τ δ β τ' δ' β' ρ : Type}

/-! ## The same program on two new machines -/

section Step

variable [Display δ] [ScreenDisplay δ] [PolledDisplay δ]
variable [Display δ'] [ScreenDisplay δ'] [PolledDisplay δ']

theorem InStep.loadRom {first : Machine τ δ ρ β} {second : Machine τ' δ' ρ β'}
    (inStep : first.InStep second) (rom : List UInt8) :
    (first.loadRom rom).1.InStep (second.loadRom rom).1 := by
  obtain ⟨core_eq, batch_eq⟩ := inStep
  refine ⟨core_loadRom core_eq rom, ?_⟩
  obtain ⟨memory, journal, loaded, -⟩ := first.loadRom_eq rom
  obtain ⟨memory', journal', loaded', -⟩ := second.loadRom_eq rom
  rw [loaded, loaded']
  exact batch_eq

variable [Seconds τ] [Seconds τ']

theorem inStep_of_start {config config' : Config} {display : δ} {display' : δ'} {random : ρ}
    {buzzer : β} {buzzer' : β'} {first : Machine τ δ ρ β} {second : Machine τ' δ' ρ β'}
    (size_eq : config.memorySize = config'.memorySize)
    (dialect_eq : config.dialect = config'.dialect) (alike : Alike display display')
    (batch_eq : PolledDisplay.batch display = PolledDisplay.batch display')
    (built : start config display random buzzer = .ok first)
    (built' : start config' display' random buzzer' = .ok second) : first.InStep second := by
  obtain ⟨-, rfl⟩ := eq_fresh_of_start built
  obtain ⟨-, rfl⟩ := eq_fresh_of_start built'
  refine ⟨?_, batch_eq⟩
  obtain ⟨screen_eq, keypad_eq⟩ := alike
  simp only [core, fresh, size_eq, dialect_eq, screen_eq, keypad_eq]
  rfl

end Step

variable [Seconds τ] [Display δ] [ScreenDisplay δ] [PolledDisplay δ] [RandomSource ρ] [Buzzer β]
variable [Seconds τ'] [Display δ'] [ScreenDisplay δ'] [PolledDisplay δ'] [Buzzer β']

/-- In a run of cycles, none ticks more than once, each calls the buzzer once, and a frame is
shown and the keys are polled as often as a cycle answers that it ran an instruction. This is
counted on tapes, and with them the machine does what it does without. -/
structure Regular (machine : Machine τ δ ρ β) (times : List τ) : Prop where
  ticksOnceAtMost : ∀ earlier elapsed, earlier ++ [elapsed] <+: times →
    (machine.run (earlier.map .cycle)).1.TicksOnceAtMost elapsed
  untaped_eq : machine.run (times.map .cycle) =
    ((machine.taped.run (times.map .cycle)).1.untaped,
      (machine.taped.run (times.map .cycle)).2)
  frames_eq : (machine.taped.run (times.map .cycle)).1.display.calls.count .presentFrame =
    (machine.run (times.map .cycle)).2.countP Answer.ran
  polls_eq : (machine.taped.run (times.map .cycle)).1.display.calls.count .pollInput =
    (machine.run (times.map .cycle)).2.countP Answer.ran
  requests_eq : (machine.taped.run (times.map .cycle)).1.buzzer.requests.length = times.length

omit [PolledDisplay δ] in
theorem regular (machine : Machine τ δ ρ β) (times : List τ) : machine.Regular times := by
  have untaped := machine.taped.run_untaped times
  have answers_eq : (machine.taped.run (times.map .cycle)).2 =
      (machine.run (times.map .cycle)).2 := (congrArg Prod.snd untaped).symm
  obtain ⟨calls, requests⟩ := machine.taped.count_run times
  rw [answers_eq] at calls
  refine ⟨fun _ _ _ => ticksOnceAtMost _ _, untaped, ?_, ?_, ?_⟩
  · exact (calls _ (.inl rfl)).trans (Nat.zero_add _)
  · exact (calls _ (.inr rfl)).trans (Nat.zero_add _)
  · exact requests.trans (Nat.zero_add _)

/-- Two new machines with memories of the same size and the same dialect, with displays that
show the same, have the same keys down and will be given the same batches, and with the same
source of random bytes, run the same program. They may differ in their rates, in the times
that go by and in how these are kept. As far as both attempt instructions, up to the first
that reads the delay timer, they make the same attempts: the same instruction is met, with
the same answer, and the same core behind it. The runs of both are regular. -/
theorem attempts_independent_of_time {config config' : Config} {display : δ} {display' : δ'}
    {random : ρ} {buzzer : β} {buzzer' : β'} {blank : Machine τ δ ρ β}
    {blank' : Machine τ' δ' ρ β'} (size_eq : config.memorySize = config'.memorySize)
    (dialect_eq : config.dialect = config'.dialect) (alike : Alike display display')
    (batch_eq : PolledDisplay.batch display = PolledDisplay.batch display')
    (built : start config display random buzzer = .ok blank)
    (built' : start config' display' random buzzer' = .ok blank')
    (rom : List UInt8) (times : List τ) (times' : List τ') :
    let first := (blank.loadRom rom).1
    let second := (blank'.loadRom rom).1
    (∀ count, count ≤ (first.attempts times).length → count ≤ (second.attempts times').length →
      (∀ attempt ∈ (first.attempts times).take count, ∀ x,
        attempt.met ≠ some (.readDelay x)) →
      (first.attempts times).take count = (second.attempts times').take count) ∧
    first.Regular times ∧ second.Regular times' := by
  intro first second
  have inStep : first.InStep second :=
    (inStep_of_start size_eq dialect_eq alike batch_eq built built').loadRom rom
  exact ⟨fun _ => inStep.take_attempts_eq, first.regular times, second.regular times'⟩

/-- One machine at two instructions a second and one at four, which is given less time at
first. -/
theorem attempts_independent_of_rate :
    ∃ blank blank' : Machine Rat HeadlessDisplay ByteCycle BuzzerTape,
      start { instructionsPerSecond := 2, memorySize := 516 } {} (.ofBytes 0 []) {} = .ok blank ∧
        start { instructionsPerSecond := 4, memorySize := 516 } {} (.ofBytes 0 []) {} = .ok blank' ∧
        ((blank.loadRom [0x60, 0x05, 0x70, 0x01]).1.attempts [1 / 2, 1 / 2]).take 2 =
          ((blank'.loadRom [0x60, 0x05, 0x70, 0x01]).1.attempts [1 / 8, 1 / 8, 1 / 4]).take 2 := by
  let slow : Config := { instructionsPerSecond := 2, memorySize := 516 }
  let fast : Config := { instructionsPerSecond := 4, memorySize := 516 }
  let display : HeadlessDisplay := {}
  let blank : Machine Rat HeadlessDisplay ByteCycle BuzzerTape :=
    fresh slow display (.ofBytes 0 []) {}
  let blank' : Machine Rat HeadlessDisplay ByteCycle BuzzerTape :=
    fresh fast display (.ofBytes 0 []) {}
  have built : start slow display (.ofBytes 0 []) {} = .ok blank :=
    start_eq_fresh _ _ _ _ (by decide) (by decide)
  have built' : start fast display (.ofBytes 0 []) {} = .ok blank' :=
    start_eq_fresh _ _ _ _ (by decide) (by decide)
  have size_eq : slow.memorySize = fast.memorySize := rfl
  have dialect_eq : slow.dialect = fast.dialect := rfl
  have alike : Alike display display := ⟨rfl, rfl⟩
  have met : ((blank.loadRom [0x60, 0x05, 0x70, 0x01]).1.attempts [1 / 2, 1 / 2]).map (·.met) =
      [some (.setByte 0 5), some (.addByte 0 1)] := by decide +kernel
  have attempted : 2 ≤ ((blank'.loadRom [0x60, 0x05, 0x70, 0x01]).1.attempts
      [1 / 8, 1 / 8, 1 / 4]).length := by decide +kernel
  refine ⟨blank, blank', built, built', ?_⟩
  apply (attempts_independent_of_time size_eq dialect_eq alike rfl built built' _ _ _).1 2
  · rw [← List.length_map (·.met), met]
    exact Nat.le_refl 2
  · exact attempted
  · intro attempt taken x reads
    have listed := List.mem_map_of_mem (f := (·.met)) (List.mem_of_mem_take taken)
    rw [met, reads] at listed
    simp at listed

end Chip8.Machine
