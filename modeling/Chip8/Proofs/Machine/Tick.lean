/-
# One tick

A tick fetches the word at the program counter and executes the instruction that it
stands for. It may meet a fault twice: where the word lies outside the memory, and
where the instruction meets one. `tick_eq` says what happens in each case.

Fetching has moved the program counter when the instruction is executed. None of the
faults depends on it, and so they may be looked for before the word is fetched.
-/

import Chip8.Proofs.Machine.Effect

namespace Chip8.Machine

variable {τ δ ρ β : Type}

/-- The word at the program counter. -/
def nextWord (machine : Machine τ δ ρ β) : Opcode :=
  machine.memory.word machine.registers.pc

/-- The instruction at the program counter. -/
def nextInstruction (machine : Machine τ δ ρ β) : Instruction :=
  Instruction.decode machine.nextWord

/-- The fault of fetching from the program counter, if there is one. -/
def fetchFault? (machine : Machine τ δ ρ β) : Option Fault :=
  machine.memory.spanFault? machine.registers.pc 2

theorem nextInstruction_inRange (machine : Machine τ δ ρ β) : machine.nextInstruction.InRange :=
  Instruction.decode_inRange machine.nextWord

/-- The instruction that a tick meets. There is none if the fetch meets a fault. -/
def met? (machine : Machine τ δ ρ β) : Option Instruction :=
  (machine.memory.fetch machine.registers.pc).toOption.map Instruction.decode

/-- The machine that has fetched the word at its program counter. -/
def fetched (machine : Machine τ δ ρ β) : Machine τ δ ρ β :=
  { machine with
    registers := { machine.registers with pc := machine.registers.pc + 2 }
    journal := machine.journal.push
      (.fetched machine.registers.pc machine.nextWord machine.nextInstruction) }

variable {machine : Machine τ δ ρ β} {instruction : Instruction}

/-- Fetching changes nothing that stops an instruction. -/
theorem stop?_fetched : machine.fetched.stop? instruction = machine.stop? instruction := by
  cases instruction <;> rfl

/-- What decides that a fetch succeeds, in numbers. -/
theorem fetchFault?_eq_none_iff :
    machine.fetchFault? = none ↔ machine.registers.pc.toNat + 2 ≤ machine.memory.capacity :=
  Memory.spanFault?_eq_none_iff

theorem met?_of_inside (inside : machine.fetchFault? = none) :
    machine.met? = some machine.nextInstruction := by
  rw [met?, Memory.fetch_of_none inside]
  rfl

/-- A word that can be fetched is the next to be decoded. -/
theorem nextInstruction_of_fetch {op : Opcode}
    (read : machine.memory.fetch machine.registers.pc = .ok op) :
    machine.fetchFault? = none ∧ machine.nextInstruction = Instruction.decode op := by
  cases refused : machine.fetchFault? with
  | some fault =>
      rw [Memory.fetch_of_some refused] at read
      cases read
  | none =>
      rw [Memory.fetch_of_none refused] at read
      exact ⟨rfl, congrArg Instruction.decode (Except.ok.inj read)⟩

theorem Consistent.fetched (consistent : machine.Consistent) : machine.fetched.Consistent :=
  ⟨consistent.depth_eq, consistent.latch_lt⟩

/-- The two bytes that are fetched are there. -/
theorem exists_nextWord (inside : machine.registers.pc.toNat + 2 ≤ machine.memory.capacity) :
    ∃ high low, machine.memory.bytes[machine.registers.pc.toNat]? = some high ∧
      machine.memory.bytes[machine.registers.pc.toNat + 1]? = some low ∧
      machine.nextWord = .ofBytes high low := by
  have kept := Memory.span_le_size (by decide) inside
  have first : machine.registers.pc.toNat < machine.memory.bytes.size := by omega
  have second : machine.registers.pc.toNat + 1 < machine.memory.bytes.size := by omega
  refine ⟨_, _, Array.getElem?_eq_getElem first, Array.getElem?_eq_getElem second, ?_⟩
  simp [nextWord, Memory.word, Memory.byteAt, first, second]

/-! ## Ticks of any machine -/

section Tick

variable [Seconds τ] [Display δ] [RandomSource ρ]

theorem tick_of_fetchFault {fault : Fault} (refused : machine.fetchFault? = some fault) :
    machine.tick = (machine, .error (.fault fault)) := by
  rw [tick, fetchDecode, Memory.fetch_of_some refused]

theorem tick_of_fetch (inside : machine.fetchFault? = none) :
    machine.tick =
      ((machine.fetched.execute machine.nextInstruction).1,
        (machine.fetched.execute machine.nextInstruction).2.map
          fun _ => machine.nextInstruction) := by
  rw [tick, fetchDecode, Memory.fetch_of_none inside]
  rfl

variable [ScreenDisplay δ]

/-- Behind a fetch, a tick stops there or has the effect of the instruction. -/
theorem tick_of_inside (inside : machine.fetchFault? = none) :
    machine.tick =
      match machine.stop? machine.nextInstruction with
      | some stop => (machine.fetched, .error stop)
      | none =>
          (machine.fetched.effect machine.nextInstruction, .ok machine.nextInstruction) := by
  -- Whether an instruction stops is asked before the fetch, and it is executed behind it.
  have executed := execute_eq_of_inRange machine.fetched machine.nextInstruction_inRange
  rw [stop?_fetched] at executed
  rw [tick_of_fetch inside, executed]
  cases machine.stop? machine.nextInstruction <;> rfl

/-- A tick that names an instruction has executed it. -/
theorem tick_of_ok (ran : machine.tick.2 = .ok instruction) :
    machine.fetchFault? = none ∧ machine.nextInstruction = instruction ∧
      machine.stop? instruction = none ∧ machine.tick.1 = machine.fetched.effect instruction := by
  cases refused : machine.fetchFault? with
  | some fault => simp [tick_of_fetchFault refused] at ran
  | none =>
      have ticked := tick_of_inside refused
      cases unstopped : machine.stop? machine.nextInstruction with
      | some stop => simp [ticked, unstopped] at ran
      | none =>
          rw [unstopped] at ticked
          rw [ticked] at ran ⊢
          obtain rfl : machine.nextInstruction = instruction := Except.ok.inj ran
          exact ⟨rfl, rfl, unstopped, rfl⟩

/-- A tick that stops has fetched at most. -/
theorem tick_of_error {stop : Stop} (stopped : machine.tick.2 = .error stop) :
    machine.tick.1 = machine ∨ machine.tick.1 = machine.fetched := by
  cases refused : machine.fetchFault? with
  | some fault => exact .inl (congrArg Prod.fst (tick_of_fetchFault refused))
  | none =>
      have ticked := tick_of_inside refused
      cases unstopped : machine.stop? machine.nextInstruction with
      | none => simp [ticked, unstopped] at stopped
      | some cause => exact .inr (by rw [ticked, unstopped])

/-- Instructions leave the buzzer, the dialect, the rate and the backlog alone. -/
theorem effect_eq (machine : Machine τ δ ρ β) (instruction : Instruction) :
    ∃ registers memory stack display random awaitedKey journal,
      machine.effect instruction =
        { machine with registers, memory, stack, display, random, awaitedKey, journal } := by
  cases instruction with
  | awaitKey x =>
      obtain ⟨registers, awaitedKey, journal, waited⟩ := machine.await_eq x
      exact ⟨registers, _, _, _, _, awaitedKey, journal, waited⟩
  | _ => exact ⟨_, _, _, _, _, _, _, rfl⟩

/-- Two machines of which the same can be said behind a tick, whatever the tick comes to. What
they fetch and what stops it must be the same, and the relation must hold before the tick,
behind a fetch, and behind the effect of what was fetched. -/
theorem tick_related {τ' δ' ρ' β' : Type} [Seconds τ'] [Display δ'] [ScreenDisplay δ']
    [RandomSource ρ'] (related : Machine τ δ ρ β → Machine τ' δ' ρ' β' → Prop)
    {first : Machine τ δ ρ β} {second : Machine τ' δ' ρ' β'}
    (fetch_eq : second.fetchFault? = first.fetchFault?) (before : related first second)
    (next_eq : first.fetchFault? = none → second.nextInstruction = first.nextInstruction)
    (stop_eq : first.fetchFault? = none →
      second.stop? first.nextInstruction = first.stop? first.nextInstruction)
    (fetched : first.fetchFault? = none → related first.fetched second.fetched)
    (effect : first.fetchFault? = none → first.stop? first.nextInstruction = none →
      related (first.fetched.effect first.nextInstruction)
        (second.fetched.effect first.nextInstruction)) :
    related first.tick.1 second.tick.1 ∧ second.tick.2 = first.tick.2 := by
  cases refused : first.fetchFault? with
  | some fault =>
      rw [tick_of_fetchFault refused, tick_of_fetchFault (fetch_eq.trans refused)]
      exact ⟨before, rfl⟩
  | none =>
      rw [tick_of_inside refused, tick_of_inside (fetch_eq.trans refused), next_eq refused,
        stop_eq refused]
      cases unstopped : first.stop? first.nextInstruction with
      | some stop => exact ⟨fetched refused, rfl⟩
      | none => exact ⟨effect refused unstopped, rfl⟩

/-- What fetches and effects leave as it is, ticks do. -/
theorem tick_preserves {α : Type} (view : Machine τ δ ρ β → α)
    (fetched : ∀ machine, view machine.fetched = view machine)
    (effect : ∀ machine instruction, view (machine.effect instruction) = view machine)
    (machine : Machine τ δ ρ β) : view machine.tick.1 = view machine := by
  cases outcome : machine.tick.2 with
  | ok instruction => rw [(tick_of_ok outcome).2.2.2, effect, fetched]
  | error stop =>
      rcases tick_of_error outcome with kept | moved
      · rw [kept]
      · rw [moved, fetched]

/-- What drawing leaves as it is in a display, ticks do. -/
theorem tick_preserves_display {α : Type} (view : δ → α)
    (cleared : ∀ display, view (Display.clearScreen display) = view display)
    (drawn : ∀ display sprite x y, view (ScreenDisplay.drawn display sprite x y).1 = view display)
    (machine : Machine τ δ ρ β) : view machine.tick.1.display = view machine.display := by
  apply tick_preserves fun machine => view machine.display
  · exact fun _ => rfl
  · intro machine instruction
    cases instruction with
    | clearScreen => exact cleared machine.display
    | draw x y height => exact drawn machine.display _ _ _
    | awaitKey x => exact congrArg view (machine.await_display x)
    | _ => rfl

/-- Ticks leave alone what instructions do. -/
theorem tick_leaves (machine : Machine τ δ ρ β) :
    machine.tick.1.buzzer = machine.buzzer ∧ machine.tick.1.dialect = machine.dialect ∧
      machine.tick.1.period = machine.period ∧ machine.tick.1.backlog = machine.backlog := by
  have kept := tick_preserves (fun machine : Machine τ δ ρ β =>
    (machine.buzzer, machine.dialect, machine.period, machine.backlog)) (fun _ => rfl)
    (fun machine instruction => by
      obtain ⟨registers, memory, stack, display, random, awaitedKey, journal, done⟩ :=
        machine.effect_eq instruction
      rw [done]) machine
  simpa only [Prod.mk.injEq] using kept

end Tick

/-! ## Ticks of a consistent machine -/

section Consistent

variable [Seconds τ] [Display δ] [ScreenDisplay δ] [RandomSource ρ]

/-- A tick meets a fault and leaves the machine alone, or meets one behind the fetch,
or has the effect of the instruction that it fetched. -/
theorem tick_eq (consistent : machine.Consistent) :
    machine.tick =
      match machine.fetchFault? with
      | some fault => (machine, .error (.fault fault))
      | none =>
          match machine.fault? machine.nextInstruction with
          | some fault => (machine.fetched, .error (.fault fault))
          | none =>
              (machine.fetched.effect machine.nextInstruction, .ok machine.nextInstruction) := by
  cases refused : machine.fetchFault? with
  | some fault => exact tick_of_fetchFault refused
  | none =>
      rw [tick_of_inside refused, consistent.stop?_eq]
      cases machine.fault? machine.nextInstruction <;> rfl

/-- What a consistent machine answers to a tick. -/
theorem tick_answer (consistent : machine.Consistent) :
    machine.tick.2 =
      match machine.fetchFault? with
      | some fault => .error (.fault fault)
      | none =>
          match machine.fault? machine.nextInstruction with
          | some fault => .error (.fault fault)
          | none => .ok machine.nextInstruction := by
  rw [tick_eq consistent]
  cases machine.fetchFault? with
  | some fault => rfl
  | none => cases machine.fault? machine.nextInstruction <;> rfl

/-- If a tick stops, the program is at fault. -/
theorem fault_of_tick {stop : Stop} (consistent : machine.Consistent)
    (stopped : machine.tick.2 = .error stop) : ∃ fault, stop = .fault fault := by
  rw [tick_answer consistent] at stopped
  split at stopped
  · next fault _ => exact ⟨fault, (Except.error.inj stopped).symm⟩
  · split at stopped
    · next fault _ => exact ⟨fault, (Except.error.inj stopped).symm⟩
    · cases stopped

/-! ## What ticks preserve -/

/-- Only the instruction that waits touches the latch. -/
theorem effect_awaitedKey (other : ∀ x, instruction ≠ .awaitKey x) :
    (machine.effect instruction).awaitedKey = machine.awaitedKey := by
  cases instruction with
  | awaitKey x => exact absurd rfl (other x)
  | _ => rfl

theorem effect_depth : (machine.effect instruction).stack.depth = machine.stack.depth := by
  cases instruction with
  | awaitKey x => simp [effect]
  | _ => rfl

theorem effect_capacity :
    (machine.effect instruction).memory.capacity = machine.memory.capacity := by
  cases instruction with
  | awaitKey x => simp [effect]
  | _ => rfl

theorem Consistent.effect (consistent : machine.Consistent) :
    (machine.effect instruction).Consistent := by
  refine ⟨effect_depth.trans consistent.depth_eq, ?_⟩
  cases instruction with
  | awaitKey x => exact await_latch_lt consistent.latch_lt
  | _ => exact consistent.latch_lt

theorem Consistent.tick (consistent : machine.Consistent) : machine.tick.1.Consistent := by
  rw [tick_eq consistent]
  split
  · exact consistent
  · split
    · exact consistent.fetched
    · exact consistent.fetched.effect

/-- No tick changes how many bytes there are. -/
theorem tick_capacity (consistent : machine.Consistent) :
    machine.tick.1.memory.capacity = machine.memory.capacity := by
  rw [tick_eq consistent]
  split
  · rfl
  · split
    · rfl
    · exact effect_capacity

end Consistent

end Chip8.Machine
