/-
# Memory is what was last written

Three kinds of deeds write: a program is put into memory, the digits of a byte are
stored, and registers are stored. `written?` gives the byte that a deed wrote to a place,
and the last of them in the history of a run decides what is there. Where nothing was
written, the font and the zeros of a new memory are still there.

A program sees nothing else. The words that it fetches, the rows that it draws and the
registers that it loads consist of these bytes, also where it has changed its own code.
-/

import Chip8.Proofs.Machine.History
import Chip8.Proofs.Memory.Content

namespace Chip8

/-! ## What deeds write -/

section Written

variable {τ δ ρ β : Type}

/-- The program that a deed put into memory. -/
def Deed.rom? : Deed τ δ ρ β → Option (List UInt8)
  | .loaded rom => some rom
  | .executed _ _ => none

/-- The byte that a deed wrote to a place, if it wrote one there. -/
def Deed.written? (place : Nat) : Deed τ δ ρ β → Option UInt8
  | .loaded rom => dataAt romStart rom place
  | .executed machine (.storeDigits x) =>
      dataAt machine.registers.index.toNat
        (Memory.decimalDigits (machine.registers.value x)) place
  | .executed machine (.storeRegisters x) =>
      dataAt machine.registers.index.toNat
        (machine.registers.values.toList.take (x.toNat + 1)) place
  | .executed _ _ => none

namespace Machine

/-- The byte that was last written to a place. -/
def lastWritten? (deeds : List (Deed τ δ ρ β)) (place : Nat) : Option UInt8 :=
  deeds.reverse.findSome? (·.written? place)

/-- The program that was last put into memory. -/
def lastRom? (deeds : List (Deed τ δ ρ β)) : Option (List UInt8) :=
  deeds.reverse.findSome? (·.rom?)

/-- The byte at a place after some deeds. -/
def content (deeds : List (Deed τ δ ρ β)) (place : Nat) : UInt8 :=
  (lastWritten? deeds place).getD (firstByte place)

theorem content_concat (deeds : List (Deed τ δ ρ β)) (deed : Deed τ δ ρ β) (place : Nat) :
    content (deeds ++ [deed]) place = (deed.written? place).getD (content deeds place) := by
  rw [content, lastWritten?, List.reverse_append, List.reverse_singleton, List.singleton_append,
    List.findSome?_cons]
  cases deed.written? place <;> rfl

theorem lastRom?_concat (deeds : List (Deed τ δ ρ β)) (deed : Deed τ δ ρ β) :
    lastRom? (deeds ++ [deed]) = deed.rom?.or (lastRom? deeds) := by
  rw [lastRom?, List.reverse_append, List.reverse_singleton, List.singleton_append,
    List.findSome?_cons]
  cases deed.rom? <;> rfl

variable {machine : Machine τ δ ρ β} {rom : List UInt8}

/-! ## Executing -/

section Effect

variable [Seconds τ] [Display δ] [RandomSource ρ]

/-- An instruction that points I at the glyph of a digit cannot stop. -/
theorem execute_pointGlyph (machine : Machine τ δ ρ β) {x : UInt8} (small : x.toNat < 16) :
    ∃ address, glyphAddress (machine.registers.value x &&& 0xF) = .ok address ∧
      machine.execute (.pointGlyph x) =
        ({ machine with registers := machine.registers.setIndex address }, .ok ()) := by
  refine ⟨_, glyphAddress_and _, ?_⟩
  rw [execute, Registers.get_of_lt _ small, liftBreach_ok, ok_bind, glyphAddress_and]
  rfl

variable [ScreenDisplay δ] {instruction : Instruction}

theorem effect_romLength :
    (machine.effect instruction).memory.romLength = machine.memory.romLength := by
  cases instruction with
  | awaitKey x => simp [effect]
  | _ => rfl

/-- The effect of an instruction on a byte is what the deed wrote there. -/
theorem byteAt_effect (unstopped : machine.stop? instruction = none) (place : Nat) :
    (machine.fetched.effect instruction).memory.byteAt place =
      ((Deed.executed machine instruction).written? place).getD (machine.memory.byteAt place) := by
  cases instruction with
  | storeDigits x =>
      have inside : machine.registers.index.toNat + 3 ≤ machine.memory.capacity :=
        Memory.spanFault?_eq_none_iff.mp (Option.map_eq_none_iff.mp unstopped)
      have kept := Memory.span_le_size (by decide) inside
      exact Memory.byteAt_withOverlay_eq kept place
  | storeRegisters x =>
      have inside := Memory.spanFault?_eq_none_iff.mp (Option.map_eq_none_iff.mp unstopped)
      have kept := Memory.span_le_size x.toNat_lt inside
      have shorter := List.length_take_le (x.toNat + 1) machine.registers.values.toList
      have wrote := Nat.le_trans (Nat.add_le_add_left shorter _) kept
      exact Memory.byteAt_withOverlay_eq wrote place
  | awaitKey x => exact congrArg (·.byteAt place) (machine.fetched.await_memory x)
  | _ => rfl

end Effect

/-! ## Runs -/

/-- The instruction that a machine executes after some deeds consists of what they left at
the program counter, and so does all else that it reads. -/
def ReadsContent (earlier : List (Deed τ δ ρ β)) (machine : Machine τ δ ρ β)
    (instruction : Instruction) : Prop :=
  machine.memory.ReadsAs (content earlier) ∧
    ∃ op, instruction = Instruction.decode op ∧
      op.word.toNat = 256 * (content earlier machine.registers.pc.toNat).toNat +
        (content earlier (machine.registers.pc.toNat + 1)).toNat

/-- What a history says about the memory of a machine that began with so many bytes. -/
structure Remembers (capacity : Nat) (past : List (Deed τ δ ρ β)) (machine : Machine τ δ ρ β) :
    Prop where
  capacity_eq : machine.memory.capacity = capacity
  romLength_eq : machine.memory.romLength = ((lastRom? past).map List.length).getD 0
  byteAt_eq : ∀ place, machine.memory.byteAt place = content past place
  readsContent : ∀ earlier reader instruction, earlier ++ [.executed reader instruction] <+: past →
    ReadsContent earlier reader instruction

namespace Remembers

variable {capacity : Nat} {past : List (Deed τ δ ρ β)}

theorem readsAs (remembers : Remembers capacity past machine) :
    machine.memory.ReadsAs (content past) :=
  Memory.readsAs_of_byteAt fun place _ => remembers.byteAt_eq place

theorem readsContent_next (remembers : Remembers capacity past machine) :
    ReadsContent past machine machine.nextInstruction := by
  refine ⟨remembers.readsAs, machine.nextWord, rfl, ?_⟩
  rw [nextWord, Memory.word, Opcode.toNat_word_ofBytes, remembers.byteAt_eq,
    remembers.byteAt_eq]

end Remembers

variable [Seconds τ] {capacity : Nat}

theorem remembers_of_start {config : Config} {display : δ} {random : ρ} {buzzer : β}
    (built : start config display random buzzer = .ok machine) :
    Remembers config.memorySize [] machine := by
  obtain ⟨roomy, rfl⟩ := eq_fresh_of_start built
  refine ⟨rfl, rfl, Memory.byteAt_fresh roomy, ?_⟩
  intro earlier reader instruction nothing
  exact absurd (List.prefix_nil.mp nothing) (by simp)

variable [Display δ] [ScreenDisplay δ] [RandomSource ρ]

theorem chronicle_remembers : Chronicle (@Remembers τ δ ρ β capacity) where
  loaded past machine rom accepted remembers := by
    obtain ⟨-, stored⟩ := loadRom_of_fits (fits_of_loadRom accepted)
    refine ⟨?_, ?_, ?_, ?_⟩
    · rw [stored]
      exact remembers.capacity_eq
    · rw [stored, lastRom?_concat]
      rfl
    · intro place
      rw [content_concat, stored, ← remembers.byteAt_eq]
      exact Memory.byteAt_of_rom rom place
    · intro earlier reader instruction before
      rcases List.prefix_concat_iff.mp before with same | before
      · cases (List.append_inj' same rfl).2
      · exact remembers.readsContent earlier reader instruction before
  fetched past machine remembers :=
    ⟨remembers.capacity_eq, remembers.romLength_eq, remembers.byteAt_eq, remembers.readsContent⟩
  executed past machine instruction next unstopped remembers := by
    refine ⟨effect_capacity.trans remembers.capacity_eq, ?_, ?_, ?_⟩
    · rw [effect_romLength, lastRom?_concat]
      exact remembers.romLength_eq
    · intro place
      rw [byteAt_effect unstopped, content_concat, remembers.byteAt_eq]
    · intro earlier reader instruction' before
      rcases List.prefix_concat_iff.mp before with same | before
      · obtain ⟨rfl, last⟩ := List.append_inj' same rfl
        obtain ⟨rfl, rfl⟩ := Deed.executed.inj (List.singleton_inj.mp last)
        rw [← next]
        exact remembers.readsContent_next
      · exact remembers.readsContent earlier reader instruction' before
  within past machine around _ remembers :=
    ⟨remembers.capacity_eq, remembers.romLength_eq, remembers.byteAt_eq, remembers.readsContent⟩

variable [Buzzer β] {config : Config} {display : δ} {random : ρ} {buzzer : β}

/-- After any run of a new machine, each byte is the one that was last written there, or
else the font's, or zero. What was written are the programs that were put into memory, the
three digits of a byte, and registers. A program is refused exactly if it is longer than
the room for it, and then nothing changes. All that is read consists of these bytes, and as
long as nothing was written over the font, wherever an instruction that points I at the
glyph of a digit has pointed it, the rows there are those of the original glyph. -/
theorem memory_of_history (built : start config display random buzzer = .ok machine)
    (events : List (Event τ)) :
    let final := (machine.run events).1
    let deeds := machine.history events
    romStart ≤ config.memorySize ∧ final.memory.capacity = config.memorySize ∧
    final.memory.romLength = ((lastRom? deeds).map List.length).getD 0 ∧
    final.memory.ReadsAs (content deeds) ∧
    (∀ earlier reader instruction, earlier ++ [.executed reader instruction] <+: deeds →
      ReadsContent earlier reader instruction) ∧
    (∀ rom : List UInt8,
      (rom.length ≤ config.memorySize - romStart → (final.loadRom rom).2 = .ok ()) ∧
      (config.memorySize - romStart < rom.length →
        final.loadRom rom = (final, .error
          (.outOfSpace rom.length (config.memorySize - romStart) romStart)))) ∧
    (∀ value, ∃ hundreds tens ones, Memory.decimalDigits value = [hundreds, tens, ones] ∧
      hundreds.toNat ≤ 9 ∧ tens.toNat ≤ 9 ∧ ones.toNat ≤ 9 ∧
      100 * hundreds.toNat + 10 * tens.toNat + ones.toNat = value.toNat) ∧
    ((∀ place, fontStart ≤ place → place < fontStart + font.length →
        lastWritten? deeds place = none) →
      ∀ (pointer : Machine τ δ ρ β) (x : UInt8), x.toNat < 16 →
        ∃ address,
          pointer.execute (.pointGlyph x) =
            ({ pointer with registers := pointer.registers.setIndex address }, .ok ()) ∧
          final.memory.sprite address 5 =
            .ok (Memory.glyph (pointer.registers.value x &&& 0xF))) := by
  intro final deeds
  obtain ⟨roomy, -⟩ := eq_fresh_of_start built
  have remembers : Remembers config.memorySize deeds final :=
    chronicle_remembers.run_history (remembers_of_start built) events
  refine ⟨roomy, remembers.capacity_eq, remembers.romLength_eq, remembers.readsAs,
    remembers.readsContent, ?load, Memory.exists_decimalDigits, ?glyphs⟩
  case load =>
    intro rom
    rw [← remembers.capacity_eq]
    exact ⟨fun fits => (loadRom_of_fits fits).1, loadRom_of_long⟩
  case glyphs =>
    intro untouched pointer x small
    obtain ⟨address, found, pointed⟩ := execute_pointGlyph pointer small
    refine ⟨address, pointed, Memory.sprite_of_glyphAddress found ?_ ?_⟩
    · rw [remembers.capacity_eq]
      exact roomy
    · intro place behind before
      rw [remembers.byteAt_eq, content, untouched place behind before]
      rfl

/-- A program that stores a register over the first byte of memory. -/
theorem memory_of_stored_register :
    ∃ (machine : Machine Rat HeadlessDisplay ByteCycle BuzzerTape) (events : List (Event Rat)),
      start { memorySize := 516 } {} (.ofBytes 0 []) {} = .ok machine ∧
        events = [.load [0x60, 0x07, 0xF0, 0x55], .tick, .tick] ∧
        (machine.run events).1.memory.byteAt 0 = 7 := by
  let program : List UInt8 := [0x60, 0x07, 0xF0, 0x55]
  -- What is computed is stated first, so that no machine need be looked into afterwards.
  obtain ⟨machine, loaded, built, loads, accepted, set, stored, seven⟩ :
      ∃ machine loaded : Machine Rat HeadlessDisplay ByteCycle BuzzerTape,
        start { memorySize := 516 } {} (.ofBytes 0 []) {} = .ok machine ∧
          (machine.respond (.load program)).1 = loaded ∧
          (machine.loadRom program).2 = .ok () ∧ loaded.tick.2 = .ok (.setByte 0 7) ∧
          loaded.tick.1.tick.2 = .ok (.storeRegisters 0) ∧
          (Deed.executed loaded.tick.1 (.storeRegisters 0)).written? 0 = some 7 := by
    refine ⟨_, _, start_eq_fresh _ _ _ _ (by decide) (by decide), rfl,
      (loadRom_of_fits (by decide)).1, ?_⟩
    decide +kernel
  have begun : (machine.deed? (.load program)).toList = [.loaded program] := by
    rw [deed?, loadDeed?, accepted]
    rfl
  have written : content (machine.history [.load program, .tick, .tick]) 0 = 7 := by
    have deeds : machine.history [.load program, .tick, .tick] =
        [.loaded program, .executed loaded (.setByte 0 7)] ++
          [.executed loaded.tick.1 (.storeRegisters 0)] := by
      rw [history, begun, loads, history_of_tick set, history_of_tick stored]
      rfl
    rw [deeds, content_concat, seven]
    rfl
  obtain ⟨-, kept, -, reads, -⟩ := memory_of_history built [.load program, .tick, .tick]
  refine ⟨machine, [.load program, .tick, .tick], built, rfl, ?_⟩
  rw [reads.byteAt_eq 0 (by rw [kept]; decide), written]

end Machine

end Written

end Chip8
