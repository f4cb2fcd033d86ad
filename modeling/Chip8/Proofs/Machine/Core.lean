/-
# What a program goes by

A program is executed on a machine whose other parts it cannot tell: what its display is
made of, what its buzzer does, how fast it is, how much time has gone by, and what was
reported. The core of a machine is all the rest. Machines that keep different kinds of time
and are connected to different things can have the same core.

Two machines with the same core meet the same instruction, are stopped by the same cause,
and have the same core afterwards. There is one exception. An instruction that reads the
delay timer brings into a register what is not in the core, so it must find as many ticks on
one machine as on the other.
-/

import Chip8.Proofs.Machine.Cycle
import Chip8.Proofs.PolledDisplay

namespace Chip8

variable {τ δ β τ' δ' β' ρ : Type}

/-- The register file with timers that may keep another kind of time. -/
def Registers.withTimers (registers : Registers τ) (delay sound : Timer τ') : Registers τ' where
  values := registers.values
  pc := registers.pc
  index := registers.index
  delay
  sound

theorem Registers.skipIf_withTimers (registers : Registers τ) (delay sound : Timer τ')
    (condition : Bool) :
    (registers.withTimers delay sound).skipIf condition =
      (registers.skipIf condition).withTimers delay sound := by
  cases condition <;> rfl

theorem Registers.compute_withTimers (registers : Registers τ) (delay sound : Timer τ')
    (legacyShift : Bool) (op : AluOp) (x y : UInt8) :
    (registers.withTimers delay sound).compute legacyShift op x y =
      (registers.compute legacyShift op x y).withTimers delay sound := by
  cases op <;> rfl

namespace Machine

/-- All of a machine that decides what its program does, but for the delay timer. -/
structure Core (ρ : Type) where
  values : Vector UInt8 16
  pc : UInt16
  index : UInt16
  memory : Memory
  stack : CallStack
  screen : Screen
  keypad : Keypad
  random : ρ
  dialect : Dialect
  awaitedKey : Option UInt8

variable [Display δ] [ScreenDisplay δ] [Display δ'] [ScreenDisplay δ']

/-- The core of a machine. -/
def core (machine : Machine τ δ ρ β) : Core ρ where
  values := machine.registers.values
  pc := machine.registers.pc
  index := machine.registers.index
  memory := machine.memory
  stack := machine.stack
  screen := ScreenDisplay.screen machine.display
  keypad := ScreenDisplay.keypad machine.display
  random := machine.random
  dialect := machine.dialect
  awaitedKey := machine.awaitedKey

/-- The same machine in surroundings that may be of another kind. -/
def moved (machine : Machine τ δ ρ β) (around : Surroundings τ' δ' β') (period : τ') :
    Machine τ' δ' ρ β' :=
  { machine with
    registers := machine.registers.withTimers around.delay around.sound
    display := around.display
    buzzer := around.buzzer
    period
    backlog := around.backlog
    journal := around.journal }

/-- A display shows the same and has the same keys down as another one. -/
def Alike (display : δ) (display' : δ') : Prop :=
  ScreenDisplay.screen display = ScreenDisplay.screen display' ∧
    ScreenDisplay.keypad display = ScreenDisplay.keypad display'

variable {first : Machine τ δ ρ β} {second : Machine τ' δ' ρ β'} {instruction : Instruction}
variable {around : Surroundings τ' δ' β'} {period : τ'}

omit [Display δ] [ScreenDisplay δ] [Display δ'] [ScreenDisplay δ'] in
theorem stop?_moved : (first.moved around period).stop? instruction = first.stop? instruction := by
  cases instruction <;> rfl

theorem eq_moved_of_core (same : first.core = second.core) :
    second = first.moved second.surroundings second.period ∧
      Alike first.display second.display := by
  simp only [core, Core.mk.injEq] at same
  obtain ⟨values, pc, index, memory, stack, screen, keypad, random, dialect, latch⟩ := same
  refine ⟨?_, screen, keypad⟩
  simp only [moved, Registers.withTimers, values, pc, index, memory, stack, random, dialect, latch]
  rfl

theorem core_moved (alike : Alike first.display around.display) :
    (first.moved around period).core = first.core := by
  obtain ⟨screen, keypad⟩ := alike
  simp only [core, moved, screen, keypad]
  rfl

/-! ## Instructions -/

theorem await_moved (first : Machine τ δ ρ β) (around : Surroundings τ' δ' β') (period : τ')
    (alike : Alike first.display around.display) (x : UInt8) :
    ∃ around', (first.moved around period).await x = (first.await x).moved around' period ∧
      Alike (first.await x).display around'.display := by
  apply await_related fun after after' =>
    ∃ around', after' = after.moved around' period ∧ Alike after.display around'.display
  · rfl
  · exact alike.2
  · exact ⟨around, rfl, alike⟩
  · intro key
    exact ⟨{ around with journal := around.journal.push (.keyLatched key) }, rfl, alike⟩
  · intro key
    exact ⟨{ around with journal := around.journal.push (.keyResolved key) }, rfl, alike⟩

variable [Seconds τ] [Seconds τ'] [RandomSource ρ]

theorem effect_moved (first : Machine τ δ ρ β) (around : Surroundings τ' δ' β') (period : τ')
    (alike : Alike first.display around.display)
    (ticks : ∀ x, instruction = .readDelay x →
      around.delay.ticks = first.registers.delay.ticks) :
    ∃ around', (first.moved around period).effect instruction =
        (first.effect instruction).moved around' period ∧
      Alike (first.effect instruction).display around'.display := by
  obtain ⟨screen, keypad⟩ := alike
  cases instruction with
  | clearScreen =>
      refine ⟨{ around with display := Display.clearScreen around.display }, rfl, ?_, ?_⟩
      · simp [effect, ScreenDisplay.screen_clearScreen]
      · simp [effect, ScreenDisplay.keypad_clearScreen, keypad]
  | draw x y height =>
      have painted := ScreenDisplay.drawn_congr screen
        (first.memory.span first.registers.index height.toNat) (first.registers.value x)
        (first.registers.value y)
      refine ⟨((first.moved around period).effect (.draw x y height)).surroundings, ?_,
        painted.1, ?_⟩
      · simp only [effect, drawn, painted.2]
        rfl
      · refine (ScreenDisplay.keypad_drawn _ _ _ _).trans (keypad.trans ?_)
        exact (ScreenDisplay.keypad_drawn _ _ _ _).symm
  | awaitKey x => exact await_moved first around period ⟨screen, keypad⟩ x
  | skipIfByte x byte | skipUnlessByte x byte | skipIfSame x y | skipUnlessSame x y =>
      refine ⟨around, ?_, screen, keypad⟩
      simp only [effect, moved, Registers.skipIf_withTimers]
      rfl
  | skipIfKey x | skipUnlessKey x =>
      refine ⟨around, ?_, screen, keypad⟩
      simp only [effect, moved, keyDown, Registers.skipIf_withTimers, ← keypad]
      rfl
  | alu op x y =>
      refine ⟨around, ?_, screen, keypad⟩
      simp only [effect, moved, Registers.compute_withTimers]
  | readDelay x =>
      refine ⟨around, ?_, screen, keypad⟩
      simp only [effect, ← ticks x rfl]
      rfl
  | setDelay x =>
      exact ⟨{ around with delay := .ofByte (first.registers.value x) }, rfl, screen, keypad⟩
  | setSound x =>
      exact ⟨{ around with sound := .ofByte (first.registers.value x) }, rfl, screen, keypad⟩
  | unknown op =>
      exact ⟨((first.moved around period).effect (.unknown op)).surroundings, rfl, screen, keypad⟩
  | _ => exact ⟨around, rfl, screen, keypad⟩

/-! ## Ticks -/

theorem tick_moved (first : Machine τ δ ρ β) (around : Surroundings τ' δ' β') (period : τ')
    (alike : Alike first.display around.display)
    (ticks : ∀ x, first.met? = some (.readDelay x) →
      around.delay.ticks = first.registers.delay.ticks) :
    (∃ around', (first.moved around period).tick.1 = first.tick.1.moved around' period ∧
      Alike first.tick.1.display around'.display) ∧
    (first.moved around period).tick.2 = first.tick.2 := by
  let fetched := (first.moved around period).fetched
  have behind_eq : fetched = first.fetched.moved fetched.surroundings period := rfl
  apply tick_related fun after after' =>
    ∃ around', after' = after.moved around' period ∧ Alike after.display around'.display
  · rfl
  · exact ⟨around, rfl, alike⟩
  · exact fun _ => rfl
  · exact fun _ => stop?_moved
  · exact fun _ => ⟨fetched.surroundings, behind_eq, alike⟩
  · intro inside _
    change ∃ around', fetched.effect _ = _ ∧ _
    rw [behind_eq]
    exact effect_moved first.fetched fetched.surroundings period alike fun x next =>
      ticks x ((met?_of_inside inside).trans (congrArg some next))

/-- Machines with the same core do the same in a tick, unless it reads a delay timer. -/
theorem core_tick (same : first.core = second.core)
    (ticks : ∀ x, first.met? = some (.readDelay x) →
      second.registers.delay.ticks = first.registers.delay.ticks) :
    first.tick.1.core = second.tick.1.core ∧ first.tick.2 = second.tick.2 := by
  obtain ⟨moved, alike⟩ := eq_moved_of_core same
  obtain ⟨⟨around, ticked, alike'⟩, answer_eq⟩ :=
    tick_moved first second.surroundings second.period alike ticks
  rw [moved, ticked, answer_eq]
  exact ⟨(core_moved alike').symm, rfl⟩

/-! ## Loading and polls -/

omit [Seconds τ] [Seconds τ'] [RandomSource ρ] in
/-- Machines with the same core have the same room for a program. -/
theorem core_loadRom (same : first.core = second.core) (rom : List UInt8) :
    (first.loadRom rom).1.core = (second.loadRom rom).1.core := by
  simp only [core, Core.mk.injEq] at same
  obtain ⟨values, pc, index, memory, others⟩ := same
  unfold Machine.loadRom
  rw [memory]
  split
  · simp only [core, record, Core.mk.injEq]
    exact ⟨values, pc, index, trivial, others⟩
  · simp only [core, Core.mk.injEq]
    exact ⟨values, pc, index, memory, others⟩

omit [Seconds τ] [Seconds τ'] [RandomSource ρ] in
/-- Behind a frame and a poll, machines with the same core differ in no more than the keys. -/
theorem core_refresh_of_keypad (same : first.core = second.core)
    (keypad_eq : ScreenDisplay.keypad first.refresh.display =
      ScreenDisplay.keypad second.refresh.display) :
    first.refresh.core = second.refresh.core := by
  obtain ⟨moved, screen, -⟩ := eq_moved_of_core same
  have alike : Alike first.refresh.display second.refresh.display := by
    refine ⟨?_, keypad_eq⟩
    simp only [refresh, recordAll, ScreenDisplay.screen_pollInput,
      ScreenDisplay.screen_presentFrame, screen]
  have refreshed : second.refresh =
      first.refresh.moved second.refresh.surroundings second.period := by
    rw [moved]
    rfl
  rw [refreshed, core_moved alike]

section Polls

variable [PolledDisplay δ] [PolledDisplay δ']

omit [Seconds τ] [Seconds τ'] [RandomSource ρ] in
/-- Behind a frame, machines with the same core take in the same batch. -/
theorem core_refresh (same : first.core = second.core)
    (batch_eq : PolledDisplay.batch first.display 0 = PolledDisplay.batch second.display 0) :
    first.refresh.core = second.refresh.core := by
  have keypad : ScreenDisplay.keypad first.display = ScreenDisplay.keypad second.display :=
    congrArg Core.keypad same
  apply core_refresh_of_keypad same
  simp only [refresh, recordAll, PolledDisplay.keypad_refresh, keypad, batch_eq]

/-- No tick reaches the batches to come. -/
theorem batch_tick (machine : Machine τ δ ρ β) :
    PolledDisplay.batch machine.tick.1.display = PolledDisplay.batch machine.display :=
  tick_preserves_display PolledDisplay.batch PolledDisplay.batch_clearScreen
    PolledDisplay.batch_drawn machine

end Polls

end Machine

end Chip8
