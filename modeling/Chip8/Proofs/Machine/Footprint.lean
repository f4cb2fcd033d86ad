/-
# What an instruction leaves alone

`footprint` is a table. For each kind of instruction it says which registers may get another
value, whether I, a timer, the call stack or the latch may, how many bytes of memory may from I
on, whether a random byte is asked for, and which call the display gets. `Confines` says that
nothing else has changed between two machines. What a tick changes is confined by the footprint
of the instruction that it ran. Only the program counter and the journal are not in the table.

One lemma for each column says what the effect of an instruction leaves alone. The call that the
display gets is what a tape around it has on it behind the tick.
-/

import Chip8.Proofs.Machine.Calls
import Chip8.Proofs.Machine.Countdown
import Chip8.Proofs.Machine.MemoryHistory
import Chip8.Proofs.Machine.ScreenHistory
import Chip8.Proofs.Machine.Subroutine

namespace Chip8

/-- Loading the registers up to one leaves those behind it alone. -/
theorem Registers.get_loaded_of_not_le {τ : Type} (registers : Registers τ) {memory : Memory}
    {address : UInt16} {last number : UInt8} (behind : ¬ number ≤ last) :
    ({ registers with values := memory.loaded address last registers.values }).get number =
      registers.get number := by
  apply get_congr
  intro named
  have short : (memory.span address (last.toNat + 1)).length ≤ last.toNat + 1 := by
    rw [Memory.span, Array.length_toList, Array.size_extract]
    omega
  have beyond : last.toNat + 1 ≤ (place number).val := by
    rw [UInt8.le_iff_toNat_le] at behind
    simp only [place, Nat.mod_eq_of_lt named]
    omega
  have absent := List.getElem?_eq_none (Nat.le_trans short beyond)
  change (memory.loaded address last registers.values)[(place number).val] =
    registers.values[(place number).val]
  simp [Memory.loaded, absent]

/-! ## The table -/

/-- What an instruction may change, and what it calls. -/
structure Footprint where
  /-- The registers that may get another value. -/
  assigns : UInt8 → Prop := fun _ => False
  /-- Whether I may. -/
  movesIndex : Bool := false
  /-- The timer that may, if one may. -/
  timer? : Option TimerName := none
  /-- The number of bytes, from I on, that may be written. -/
  stores : Nat := 0
  /-- Whether the call stack may change. -/
  movesStack : Bool := false
  /-- Whether the latch may change. -/
  movesLatch : Bool := false
  /-- Whether a random byte is asked for. -/
  asksRandom : Bool := false
  /-- The call to the display, if there is one. -/
  call? : Option DisplayCall := none

/-- Nothing but what a footprint names is different behind a step, and a random byte was asked
for if it says so. -/
structure Footprint.Confines {τ δ ρ β : Type} [Display δ] [ScreenDisplay δ] [RandomSource ρ]
    (footprint : Footprint) (before after : Machine τ δ ρ β) : Prop where
  register_eq : ∀ number, ¬ footprint.assigns number →
    after.registers.get number = before.registers.get number
  index_eq : footprint.movesIndex = false → after.registers.index = before.registers.index
  timer_eq : ∀ name, footprint.timer? ≠ some name →
    after.registers.timer name = before.registers.timer name
  byte_eq : ∀ place, ¬ (before.registers.index.toNat ≤ place ∧
      place < before.registers.index.toNat + footprint.stores) →
    after.memory.byteAt place = before.memory.byteAt place
  capacity_eq : after.memory.capacity = before.memory.capacity
  romLength_eq : after.memory.romLength = before.memory.romLength
  stack_eq : footprint.movesStack = false → after.stack = before.stack
  latch_eq : footprint.movesLatch = false → after.awaitedKey = before.awaitedKey
  random_eq : after.random =
    if footprint.asksRandom then (RandomSource.nextByte before.random).2 else before.random
  display_eq : footprint.call? = none → after.display = before.display
  keypad_eq : ScreenDisplay.keypad after.display = ScreenDisplay.keypad before.display
  buzzer_eq : after.buzzer = before.buzzer
  backlog_eq : after.backlog = before.backlog
  period_eq : after.period = before.period
  dialect_eq : after.dialect = before.dialect

namespace Machine

variable {τ δ ρ β : Type} [Display δ] [ScreenDisplay δ]

/-- Whether an instruction that waits would latch a key: none is latched, and one is down. -/
def latches (machine : Machine τ δ ρ β) : Bool :=
  machine.awaitedKey.isNone && machine.firstDown?.isSome

/-- The footprint of each instruction. -/
def footprint (machine : Machine τ δ ρ β) : Instruction → Footprint
  | .clearScreen => { call? := some .clearScreen }
  | .ret | .call _ => { movesStack := true }
  | .setByte x _ | .addByte x _ | .readDelay x | .alu .copy x _ => { assigns := (· = x) }
  | .alu _ x _ => { assigns := fun number => number = x ∨ number = 0xF }
  | .setIndex _ | .addIndex _ | .pointGlyph _ => { movesIndex := true }
  | .random x _ => { assigns := (· = x), asksRandom := true }
  | .draw x y height =>
      let registers := machine.registers
      let sprite := machine.memory.span registers.index height.toNat
      { assigns := (· = 0xF)
        call? := some (.drawSprite sprite (registers.value x) (registers.value y)) }
  | .awaitKey x => { assigns := fun number => machine.latches ∧ number = x, movesLatch := true }
  | .setDelay _ => { timer? := some .delay }
  | .setSound _ => { timer? := some .sound }
  | .storeDigits _ => { stores := 3 }
  | .storeRegisters x => { stores := x.toNat + 1 }
  | .loadRegisters x => { assigns := (· ≤ x) }
  | .jump _ | .jumpOffset _ _ | .skipIfByte _ _ | .skipUnlessByte _ _ | .skipIfSame _ _
  | .skipUnlessSame _ _ | .skipIfKey _ | .skipUnlessKey _ | .unknown _ => {}

variable {machine : Machine τ δ ρ β} {instruction : Instruction} {number : UInt8}

/-! ## Columns -/

/-- Waiting changes one register at most, and only when a key is latched. -/
theorem get_await {x : UInt8} (small : x.toNat < 16) (other : ¬ (machine.latches ∧ number = x)) :
    (machine.await x).registers.get number = machine.registers.get number := by
  unfold await
  cases unlatched : machine.awaitedKey with
  | none =>
      cases found : machine.firstDown? with
      | none => rfl
      | some key =>
          have latching : machine.latches := by simp [latches, unlatched, found]
          exact machine.registers.get_put_of_ne small (fun same => other ⟨latching, same⟩) key
  | some key =>
      dsimp only
      split <;> rfl

theorem index_await (machine : Machine τ δ ρ β) (x : UInt8) :
    (machine.await x).registers.index = machine.registers.index := by
  unfold await
  split <;> split <;> rfl

variable [Seconds τ] [RandomSource ρ]

theorem get_effect (fits : instruction.InRange)
    (other : ¬ (machine.footprint instruction).assigns number) :
    (machine.effect instruction).registers.get number = machine.registers.get number := by
  have small := fits.nibble_lt
  have skipped (condition : Bool) :
      (machine.registers.skipIf condition).get number = machine.registers.get number := by
    cases condition <;> rfl
  cases instruction with
  | setByte x byte | addByte x byte | random x byte =>
      exact machine.registers.get_put_of_ne (small x List.mem_cons_self) other _
  | readDelay x => exact machine.registers.get_put_of_ne (small x List.mem_cons_self) other _
  | draw x y height => exact machine.registers.get_setFlag_of_ne other _
  | loadRegisters x => exact machine.registers.get_loaded_of_not_le other
  | awaitKey x => exact get_await (small x List.mem_cons_self) other
  | alu op x y =>
      have named : x.toNat < 16 := small x List.mem_cons_self
      cases op with
      | copy => exact machine.registers.get_compute_of_ne named other (.inl rfl)
      | _ =>
          obtain ⟨ne, unflagged⟩ := not_or.mp other
          exact machine.registers.get_compute_of_ne named ne (.inr unflagged)
  | skipIfByte x byte | skipUnlessByte x byte | skipIfSame x y | skipUnlessSame x y
  | skipIfKey x | skipUnlessKey x => exact skipped _
  | _ => rfl

theorem index_effect (kept : (machine.footprint instruction).movesIndex = false) :
    (machine.effect instruction).registers.index = machine.registers.index := by
  have skipped (condition : Bool) :
      (machine.registers.skipIf condition).index = machine.registers.index := by
    cases condition <;> rfl
  cases instruction with
  | setIndex target | addIndex x | pointGlyph x => cases kept
  | awaitKey x => exact machine.index_await x
  | alu op x y => cases op <;> rfl
  | skipIfByte x byte | skipUnlessByte x byte | skipIfSame x y | skipUnlessSame x y
  | skipIfKey x | skipUnlessKey x => exact skipped _
  | _ => rfl

theorem timer_effect_of_unset {name : TimerName}
    (unset : (machine.footprint instruction).timer? ≠ some name) :
    (machine.effect instruction).registers.timer name = machine.registers.timer name := by
  have unnamed : instruction.setter? name = none := by
    cases instruction with
    | setDelay x | setSound x => exact if_neg fun same => unset (congrArg some same.symm)
    | _ => rfl
  rw [timer_effect, unnamed]
  rfl

/-- Only as many bytes as are stored are different, from I on. -/
theorem byteAt_effect_of_outside {place : Nat} (unstopped : machine.stop? instruction = none)
    (outside : ¬ (machine.registers.index.toNat ≤ place ∧
      place < machine.registers.index.toNat + (machine.footprint instruction).stores)) :
    (machine.fetched.effect instruction).memory.byteAt place = machine.memory.byteAt place := by
  have unwritten : (Deed.executed machine instruction).written? place = none := by
    cases instruction with
    | storeDigits x => exact dataAt_of_outside (Nat.le_refl 3) outside
    | storeRegisters x => exact dataAt_of_outside (List.length_take_le _ _) outside
    | _ => rfl
  rw [byteAt_effect unstopped, unwritten]
  rfl

theorem stack_effect_of_kept (kept : (machine.footprint instruction).movesStack = false) :
    (machine.fetched.effect instruction).stack = machine.stack := by
  rw [stack_effect]
  cases instruction with
  | call target | ret => cases kept
  | _ => rfl

theorem latch_effect (kept : (machine.footprint instruction).movesLatch = false) :
    (machine.effect instruction).awaitedKey = machine.awaitedKey := by
  apply effect_awaitedKey
  rintro x rfl
  cases kept

theorem random_effect (machine : Machine τ δ ρ β) (instruction : Instruction) :
    (machine.effect instruction).random =
      if (machine.footprint instruction).asksRandom then (RandomSource.nextByte machine.random).2
      else machine.random := by
  cases instruction with
  | awaitKey x =>
      obtain ⟨registers, awaitedKey, journal, waited⟩ := machine.await_eq x
      change (machine.await x).random = machine.random
      rw [waited]
  | alu op x y => cases op <;> rfl
  | _ => rfl

theorem display_effect (uncalled : (machine.footprint instruction).call? = none) :
    (machine.effect instruction).display = machine.display := by
  apply effect_display
  · rintro rfl
    cases uncalled
  · rintro x y height rfl
    cases uncalled

/-- A tape around the display has the call of an instruction on it. -/
theorem calls_effect (machine : Machine τ (Taped δ) ρ β) (instruction : Instruction) :
    (machine.effect instruction).display.calls =
      machine.display.calls ++ (machine.footprint instruction).call?.toList := by
  by_cases called : (machine.footprint instruction).call? = none
  · rw [display_effect called, called]
    exact (List.append_nil _).symm
  · cases instruction with
    | clearScreen => rfl
    | draw x y height => exact congrArg (fun answer => answer.1.calls) (Taped.drawn_eq machine.display _ _ _)
    | alu op x y => cases op <;> exact absurd rfl called
    | _ => exact absurd rfl called

/-! ## Ticks -/

/-- The footprint is that of the machine before the fetch, which does not matter to it. -/
theorem confines_tick (ran : machine.tick.2 = .ok instruction) :
    (machine.footprint instruction).Confines machine machine.tick.1 := by
  obtain ⟨-, next, unstopped, after⟩ := tick_of_ok ran
  have fits : instruction.InRange := next ▸ machine.nextInstruction_inRange
  obtain ⟨buzzer_eq, dialect_eq, period_eq, backlog_eq⟩ := machine.tick_leaves
  have keypad_eq := tick_preserves_display ScreenDisplay.keypad ScreenDisplay.keypad_clearScreen
    ScreenDisplay.keypad_drawn machine
  rw [after] at *
  exact {
    register_eq := fun number other => get_effect fits other
    index_eq := fun kept => index_effect kept
    timer_eq := fun name unset => timer_effect_of_unset unset
    byte_eq := fun place outside => byteAt_effect_of_outside unstopped outside
    capacity_eq := effect_capacity
    romLength_eq := effect_romLength
    stack_eq := fun kept => stack_effect_of_kept kept
    latch_eq := fun kept => latch_effect kept
    random_eq := machine.fetched.random_effect instruction
    display_eq := fun uncalled => display_effect uncalled
    keypad_eq, buzzer_eq, backlog_eq, period_eq, dialect_eq }

/-- A tick does the same with tapes, and on them are the call of its instruction and no request
to the buzzer. -/
theorem tick_taped (ran : machine.tick.2 = .ok instruction) :
    machine.taped.tick.1.untaped = machine.tick.1 ∧ machine.taped.tick.2 = .ok instruction ∧
      machine.taped.tick.1.display.calls = (machine.footprint instruction).call?.toList ∧
      machine.taped.tick.1.buzzer.requests = [] := by
  let unwound := machine.taped.map Taped.display TapedBuzzer.buzzer
  obtain ⟨same, answer_eq⟩ : unwound.tick.1 = machine.taped.tick.1.untaped ∧
      unwound.tick.2 = machine.taped.tick.2 := tick_map Taped.displayHom machine.taped
  have tapedRan : machine.taped.tick.2 = .ok instruction := answer_eq.symm.trans ran
  obtain ⟨-, -, -, after⟩ := tick_of_ok tapedRan
  refine ⟨same.symm, tapedRan, ?_, congrArg TapedBuzzer.requests machine.taped.tick_leaves.1⟩
  rw [after]
  exact calls_effect machine.taped.fetched instruction

/-- What a tick that succeeds changes is confined by the footprint of its instruction, whatever
the machine is. It makes the call to the display that stands there and no other, shows no frame,
does not poll, and does not ask the buzzer for anything. A word that means nothing moves the
program counter on, and nothing else comes of it but its records. -/
theorem tick_within_footprint (ran : machine.tick.2 = .ok instruction) :
    (machine.footprint instruction).Confines machine machine.tick.1 ∧
      (machine.taped.tick.1.untaped = machine.tick.1 ∧ machine.taped.tick.2 = .ok instruction ∧
        machine.taped.tick.1.display.calls = (machine.footprint instruction).call?.toList ∧
        machine.taped.tick.1.buzzer.requests = []) ∧
      ∀ word, instruction = .unknown word →
        machine.tick.1 = { machine with
          registers := { machine.registers with pc := machine.registers.pc + 2 }
          journal := machine.tick.1.journal } := by
  refine ⟨confines_tick ran, tick_taped ran, ?_⟩
  rintro word rfl
  rw [(tick_of_ok ran).2.2.2]
  rfl

/-- A program points I at the glyph of zero and draws its first row. -/
theorem tick_within_footprint_of_draw :
    ∃ machine : Machine Rat HeadlessDisplay ByteCycle BuzzerTape,
      machine.tick.2 = .ok (.draw 0 0 1) ∧
        machine.tick.1.registers.get 0 = machine.registers.get 0 ∧
        machine.tick.1.registers.index = machine.registers.index ∧
        (∀ place, machine.tick.1.memory.byteAt place = machine.memory.byteAt place) ∧
        machine.taped.tick.1.display.calls = [.drawSprite [0xF0] 0 0] := by
  let unloaded : Machine Rat HeadlessDisplay ByteCycle BuzzerTape :=
    fresh { memorySize := 516 } {} (.ofBytes 0 []) {}
  let machine := (unloaded.loadRom [0xF0, 0x29, 0xD0, 0x01]).1.tick.1
  have ran : machine.tick.2 = .ok (.draw 0 0 1) := by decide +kernel
  have called : (machine.footprint (.draw 0 0 1)).call? = some (.drawSprite [0xF0] 0 0) := by
    decide +kernel
  obtain ⟨confines, ⟨-, -, calls, -⟩, -⟩ := tick_within_footprint ran
  have unassigned : ¬ (machine.footprint (.draw 0 0 1)).assigns 0 := by simp [footprint]
  refine ⟨machine, ran, confines.register_eq 0 unassigned, confines.index_eq rfl, ?_, ?_⟩
  · intro place
    apply confines.byte_eq
    simp [footprint]
  · rw [calls, called]
    rfl

end Machine

end Chip8
