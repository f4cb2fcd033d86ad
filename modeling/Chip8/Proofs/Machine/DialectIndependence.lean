/-
# What the dialect decides

Two machines that are the same but for their dialects are compared in the same run. A dialect is
asked in three places only: the two shifts ask which register they take their operand from, and a
jump by a register asks which register that is. Where the registers in question hold the same, both
dialects read the instruction alike, and behind it the machines still differ in nothing but the
dialect.

So they agree through a whole run in which every shift, and every jump by a register, is read
alike. What was executed is taken from the history of the run of one of them. Nothing is said
about what comes behind an instruction that the two read differently.
-/

import Chip8.Proofs.Machine.History

namespace Chip8

variable {τ δ ρ β : Type}

/-- A shift of equal registers is the same in every dialect, and so is all other arithmetic. -/
theorem Registers.compute_congr (registers : Registers τ) {first second : Bool} {op : AluOp}
    {x y : UInt8} (alike : op = .shiftRight ∨ op = .shiftLeft →
      first = second ∨ registers.value x = registers.value y) :
    registers.compute second op x y = registers.compute first op x y := by
  cases op with
  | shiftRight | shiftLeft =>
      rcases alike (by simp) with same | same
      · rw [same]
      · simp only [compute, outcome, same, ite_self]
  | _ => rfl

namespace Machine

/-- The same machine with other readings of ambiguous instructions. -/
def speaking (machine : Machine τ δ ρ β) (dialect : Dialect) : Machine τ δ ρ β :=
  { machine with dialect }

/-- Two dialects read an instruction alike on a machine: they agree on the register in question,
or both registers hold the same. -/
def ReadsAlike (first second : Dialect) (machine : Machine τ δ ρ β) : Instruction → Prop
  | .alu op x y => op = .shiftRight ∨ op = .shiftLeft →
      first.legacyShift = second.legacyShift ∨
        machine.registers.value x = machine.registers.value y
  | .jumpOffset _ x =>
      first.legacyJumpOffset = second.legacyJumpOffset ∨
        machine.registers.value 0 = machine.registers.value x
  | _ => True

variable {machine : Machine τ δ ρ β} {dialect : Dialect} {instruction : Instruction}

theorem stop?_speaking :
    (machine.speaking dialect).stop? instruction = machine.stop? instruction := by
  cases instruction <;> rfl

theorem jumpTarget_speaking {base : UInt16} {x : UInt8}
    (alike : ReadsAlike machine.dialect dialect machine (.jumpOffset base x)) :
    (machine.speaking dialect).jumpTarget base x = machine.jumpTarget base x := by
  unfold jumpTarget speaking
  rcases alike with same | same
  · rw [same]
  · cases machine.dialect.legacyJumpOffset <;> cases dialect.legacyJumpOffset <;> simp [same]

theorem loadRom_speaking (machine : Machine τ δ ρ β) (dialect : Dialect) (rom : List UInt8) :
    (machine.speaking dialect).loadRom rom =
      ((machine.loadRom rom).1.speaking dialect, (machine.loadRom rom).2) := by
  unfold loadRom speaking
  cases machine.memory.loadRom rom <;> rfl

variable [Display δ] [ScreenDisplay δ]

theorem await_speaking (machine : Machine τ δ ρ β) (dialect : Dialect) (x : UInt8) :
    (machine.speaking dialect).await x = (machine.await x).speaking dialect := by
  apply await_related fun after' after => after' = after.speaking dialect
  · rfl
  · rfl
  · rfl
  · exact fun _ => rfl
  · exact fun _ => rfl

theorem takeKeys_speaking (machine : Machine τ δ ρ β) (dialect : Dialect)
    (keys : Except Breach Keypad) :
    (machine.speaking dialect).takeKeys keys =
      ((machine.takeKeys keys).1.speaking dialect, (machine.takeKeys keys).2) := by
  cases keys <;> rfl

variable [Seconds τ] [RandomSource ρ]

/-- An instruction that both dialects read alike does the same in both. -/
theorem effect_speaking (alike : ReadsAlike machine.dialect dialect machine instruction) :
    (machine.speaking dialect).effect instruction =
      (machine.effect instruction).speaking dialect := by
  cases instruction with
  | alu op x y =>
      have computed := machine.registers.compute_congr alike
      simp only [effect, speaking, computed]
  | jumpOffset base x =>
      simp only [effect, jumpTarget_speaking alike]
      rfl
  | awaitKey x => exact machine.await_speaking dialect x
  | _ => rfl

theorem tick_speaking (alike : ∀ instruction, machine.tick.2 = .ok instruction →
      ReadsAlike machine.dialect dialect machine instruction) :
    (machine.speaking dialect).tick.1 = machine.tick.1.speaking dialect ∧
      (machine.speaking dialect).tick.2 = machine.tick.2 := by
  apply tick_related fun after after' => after' = after.speaking dialect
  · rfl
  · rfl
  · exact fun _ => rfl
  · exact fun _ => stop?_speaking
  · exact fun _ => rfl
  · intro inside unstopped
    have ran : machine.tick.2 = .ok machine.nextInstruction := by
      rw [tick_of_inside inside, unstopped]
    -- Fetching changes neither the registers in question nor the dialect.
    have behind : ReadsAlike machine.fetched.dialect dialect machine.fetched
        machine.nextInstruction := by
      have before := alike _ ran
      cases next : machine.nextInstruction <;> rw [next] at before <;> exact before
    exact effect_speaking behind

variable [Buzzer β]

theorem cycle_speaking {elapsed : τ} (alike : ∀ actor instruction,
      machine.deed? (.cycle elapsed) = some (.executed actor instruction) →
      ReadsAlike machine.dialect dialect actor instruction) :
    ((machine.speaking dialect).cycle elapsed).1 = (machine.cycle elapsed).1.speaking dialect ∧
      ((machine.speaking dialect).cycle elapsed).2 = (machine.cycle elapsed).2 := by
  apply cycle_related fun after after' => after' = after.speaking dialect
  · rfl
  · rfl
  · intro due
    apply (machine.clocked elapsed).tick_speaking
    intro instruction ran
    exact alike _ instruction (deed?_of_cycle due ran)
  · rintro after _ rfl
    rfl

/-! ## Runs -/

/-- No event changes the dialect. -/
theorem respond_dialect (machine : Machine τ δ ρ β) (event : Event τ) :
    (machine.respond event).1.dialect = machine.dialect := by
  apply respond_induction fun after => after.dialect = machine.dialect
  · intro after kept
    exact after.tick_leaves.2.1.trans kept
  · intro after around kept
    exact kept
  · intro rom _
    obtain ⟨memory, journal, loaded, -⟩ := machine.loadRom_eq rom
    rw [loaded]
  · rfl

/-- An event does the same in both dialects, if it executes an instruction, then one that they
read alike. -/
theorem respond_speaking {event : Event τ} (alike : ∀ actor instruction,
      machine.deed? event = some (.executed actor instruction) →
      ReadsAlike machine.dialect dialect actor instruction) :
    (machine.speaking dialect).respond event =
      ((machine.respond event).1.speaking dialect, (machine.respond event).2) := by
  cases event with
  | load rom =>
      rw [respond, loadRom_speaking]
      rfl
  | tick =>
      obtain ⟨after, answer⟩ := machine.tick_speaking fun instruction ran =>
        alike machine instruction (deed?_of_tick ran)
      exact Prod.ext after (congrArg Answer.ticked answer)
  | cycle elapsed =>
      obtain ⟨after, answer⟩ := cycle_speaking alike
      exact Prod.ext after (congrArg Answer.cycled answer)
  | press key | release key | update batch =>
      rw [respond]
      exact machine.takeKeys_speaking dialect _

theorem run_speaking {events : List (Event τ)} (alike : ∀ actor instruction,
      .executed actor instruction ∈ machine.history events →
      ReadsAlike machine.dialect dialect actor instruction) :
    (machine.speaking dialect).run events =
      ((machine.run events).1.speaking dialect, (machine.run events).2) := by
  induction events generalizing machine with
  | nil => rfl
  | cons event rest ih =>
      have responded : (machine.speaking dialect).respond event =
          ((machine.respond event).1.speaking dialect, (machine.respond event).2) := by
        apply respond_speaking
        intro actor instruction acted
        refine alike actor instruction (List.mem_append_left _ ?_)
        rw [acted]
        exact List.mem_singleton_self _
      have behind := ih fun actor instruction listed => by
        rw [respond_dialect]
        exact alike actor instruction (List.mem_append_right _ listed)
      simp only [run, responded, behind]

/-- In every shift of a history the two registers held the same. -/
def ShiftsEquals (deeds : List (Deed τ δ ρ β)) : Prop :=
  ∀ actor op x y, .executed actor (.alu op x y) ∈ deeds → op = .shiftRight ∨ op = .shiftLeft →
    actor.registers.value x = actor.registers.value y

/-- In every jump by a register of a history V0 and the register that is named held the same. -/
def JumpsByEquals (deeds : List (Deed τ δ ρ β)) : Prop :=
  ∀ actor base x, .executed actor (.jumpOffset base x) ∈ deeds →
    actor.registers.value 0 = actor.registers.value x

/-- Two machines that differ in nothing but their dialects give the same answers in a run, and
differ in nothing else behind it, as long as all shifts were of equal registers and all jumps by a
register were by V0 or by one that held the same. If they agree on jumps, the shifts alone
matter, and if they agree on shifts, the jumps alone do. -/
theorem dialects_agree_until_named (machine : Machine τ δ ρ β) (dialect : Dialect)
    (events : List (Event τ)) :
    let deeds := machine.history events
    let Agree := (machine.speaking dialect).run events =
      ((machine.run events).1.speaking dialect, (machine.run events).2)
    (ShiftsEquals deeds → JumpsByEquals deeds → Agree) ∧
    (machine.dialect.legacyJumpOffset = dialect.legacyJumpOffset → ShiftsEquals deeds → Agree) ∧
    (machine.dialect.legacyShift = dialect.legacyShift → JumpsByEquals deeds → Agree) := by
  intro deeds Agree
  have agree (shifts : machine.dialect.legacyShift = dialect.legacyShift ∨ ShiftsEquals deeds)
      (jumps : machine.dialect.legacyJumpOffset = dialect.legacyJumpOffset ∨
        JumpsByEquals deeds) : Agree := by
    apply run_speaking
    intro actor instruction listed
    cases instruction with
    | alu op x y => exact fun shift => shifts.imp_right fun equal => equal actor op x y listed shift
    | jumpOffset base x => exact jumps.imp_right fun equal => equal actor base x listed
    | _ => trivial
  exact ⟨fun shifts jumps => agree (.inr shifts) (.inr jumps),
    fun same shifts => agree (.inr shifts) (.inl same),
    fun same jumps => agree (.inl same) (.inr jumps)⟩

/-- Two new machines whose dialects differ in both readings shift a register that holds what the
other one does, and jump by a register that holds what V0 does. -/
theorem dialects_agree_on_equal_registers :
    ∃ first second : Machine Rat HeadlessDisplay ByteCycle BuzzerTape,
      start { memorySize := 516 } {} (.ofBytes 0 []) {} = .ok first ∧
        start { memorySize := 516, dialect := ⟨true, false⟩ } {} (.ofBytes 0 []) {} = .ok second ∧
        let machine := (first.loadRom [0x80, 0x16, 0xB2, 0x00]).1
        let other := (second.loadRom [0x80, 0x16, 0xB2, 0x00]).1
        machine.tick.2 = .ok (.alu .shiftRight 0 1) ∧
          machine.tick.1.tick.2 = .ok (.jumpOffset 0x200 2) ∧
          other.run [.tick, .tick] =
            ((machine.run [.tick, .tick]).1.speaking ⟨true, false⟩,
              (machine.run [.tick, .tick]).2) := by
  -- What is computed is stated first, so that no machine need be looked into afterwards.
  obtain ⟨first, machine, loaded, built, built', shifts, jumps, shifted, jumped⟩ :
      ∃ first machine : Machine Rat HeadlessDisplay ByteCycle BuzzerTape,
        (first.loadRom [0x80, 0x16, 0xB2, 0x00]).1 = machine ∧
          start { memorySize := 516 } {} (.ofBytes 0 []) {} = .ok first ∧
          start { memorySize := 516, dialect := ⟨true, false⟩ } {} (.ofBytes 0 []) {} =
            .ok (first.speaking ⟨true, false⟩) ∧
          machine.tick.2 = .ok (.alu .shiftRight 0 1) ∧
          machine.tick.1.tick.2 = .ok (.jumpOffset 0x200 2) ∧
          machine.registers.value 0 = machine.registers.value 1 ∧
          machine.tick.1.registers.value 0 = machine.tick.1.registers.value 2 := by
    refine ⟨fresh { memorySize := 516 } {} (.ofBytes 0 []) {}, _, rfl,
      start_eq_fresh _ _ _ _ (by decide) (by decide),
      start_eq_fresh _ _ _ _ (by decide) (by decide), ?_⟩
    decide +kernel
  have deeds : machine.history [.tick, .tick] =
      [.executed machine (.alu .shiftRight 0 1),
        .executed machine.tick.1 (.jumpOffset 0x200 2)] := by
    rw [history_of_tick shifts, history_of_tick jumps]
    rfl
  have equalShifts : ShiftsEquals (machine.history [.tick, .tick]) := by
    rw [deeds]
    intro actor op x y listed _
    simp only [List.mem_cons, Deed.executed.injEq, Instruction.alu.injEq, reduceCtorEq, and_false,
      List.not_mem_nil, or_false] at listed
    obtain ⟨rfl, rfl, rfl, rfl⟩ := listed
    exact shifted
  have equalJumps : JumpsByEquals (machine.history [.tick, .tick]) := by
    rw [deeds]
    intro actor base x listed
    simp only [List.mem_cons, Deed.executed.injEq, Instruction.jumpOffset.injEq, reduceCtorEq,
      and_false, List.not_mem_nil, or_false, false_or] at listed
    obtain ⟨rfl, rfl, rfl⟩ := listed
    exact jumped
  have other : ((first.speaking ⟨true, false⟩).loadRom [0x80, 0x16, 0xB2, 0x00]).1 =
      machine.speaking ⟨true, false⟩ := by
    rw [loadRom_speaking, loaded]
  obtain ⟨agree, -, -⟩ := dialects_agree_until_named machine ⟨true, false⟩ [.tick, .tick]
  refine ⟨first, first.speaking ⟨true, false⟩, built, built', ?_⟩
  rw [loaded, other]
  exact ⟨shifts, jumps, agree equalShifts equalJumps⟩

end Machine

end Chip8
