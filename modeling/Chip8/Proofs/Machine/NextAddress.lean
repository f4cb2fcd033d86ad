/-
# The address behind each word

Where a program goes on is said here of the words that it consists of, digit by digit. A jump or a
call leads to the last three digits, and a jump by a register to their sum with it, which has no
more than sixteen bits. A return leads to the latest address on the call stack. Waiting for a key
stays where it is until the key has come up. `condition?` is a table of the words that can skip,
with the conditions under which they do; these skip one word more than the others, which all lead
to the word behind them. The words that skip come in pairs with opposite conditions.

The program counter has sixteen bits, so all of this is counted round.
-/

import Chip8.Proofs.Assembly
import Chip8.Proofs.Machine.ControlFlow

namespace Chip8

namespace Opcode

/-- The digits of a word, and the operands that consist of several of them. -/
structure Digits (op : Opcode) : Prop where
  word_eq : op.word.toNat = 0x1000 * op.family.toNat + op.nnn.toNat
  nnn_eq : op.nnn.toNat = 0x100 * op.x.toNat + op.nn.toNat
  nn_eq : op.nn.toNat = 0x10 * op.y.toNat + op.n.toNat
  x_lt : op.x.toNat < 0x10
  y_lt : op.y.toNat < 0x10
  n_lt : op.n.toNat < 0x10

theorem digits (op : Opcode) : op.Digits := by
  have hfamily := op.toNat_family
  have hx := op.toNat_x
  have hy := op.toNat_y
  have hn := op.toNat_n
  have hnn := op.toNat_nn
  have hnnn := op.toNat_nnn
  constructor <;> omega

/-- Two words with the same operands of which one skips under a condition and the other one
unless it holds. -/
def Opposes (op op' : Opcode) : Prop :=
  op.x = op'.x ∧
    (op.family = 0x3 ∧ op'.family = 0x4 ∧ op.nn = op'.nn ∨
      op.family = 0x5 ∧ op'.family = 0x9 ∧ op.y = op'.y ∨
      op.family = 0xE ∧ op'.family = 0xE ∧ op.nn = 0x9E ∧ op'.nn = 0xA1)

/-- The words that lead elsewhere than to the words behind them: jumps, calls, returns, and those
that wait for a key. -/
def Diverts (op : Opcode) : Prop :=
  op.family = 0x1 ∨ op.family = 0x2 ∨ op.family = 0xB ∨ op.word = 0x00EE ∨
    op.family = 0xF ∧ op.nn = 0x0A

end Opcode

namespace Machine

open Instruction (decode)

variable {τ δ ρ β : Type} [Display δ] [ScreenDisplay δ]

/-- The condition under which a word skips the one behind it, if it can skip. -/
def condition? (machine : Machine τ δ ρ β) (op : Opcode) : Option Bool :=
  let vx := machine.registers.value op.x
  let vy := machine.registers.value op.y
  let down := (ScreenDisplay.keypad machine.display).holds (vx % 16)
  match op.family with
  | 0x3 => some (vx == op.nn)
  | 0x4 => some (vx != op.nn)
  | 0x5 => some (vx == vy)
  | 0x9 => some (vx != vy)
  | 0xE => if op.nn = 0x9E then some down else if op.nn = 0xA1 then some (!down) else none
  | _ => none

variable {machine : Machine τ δ ρ β} {op : Opcode} {holds : Bool}

/-- The key that a register names is counted round. -/
theorem keyDown_eq (machine : Machine τ δ ρ β) (x : UInt8) :
    machine.keyDown x =
      (ScreenDisplay.keypad machine.display).holds (machine.registers.value x % 16) := by
  rw [keyDown, and_fifteen_eq_mod]

/-- A word that can skip is never stopped, and leads over the next word or to it. -/
theorem destination_of_condition (met : machine.condition? op = some holds) :
    machine.stop? (decode op) = none ∧
      machine.destination (decode op) =
        if holds then machine.registers.pc.toNat + 4 else machine.registers.pc.toNat + 2 := by
  unfold condition? at met
  dsimp only at met
  split at met
  case h_5 family =>
    rw [← keyDown_eq] at met
    split at met
    case isTrue pressed =>
      have meant : decode op = .skipIfKey op.x := by
        rw [decode, Instruction.ofOpcode?, family, pressed]
        rfl
      cases met
      rw [meant]
      exact ⟨rfl, rfl⟩
    case isFalse =>
      split at met
      case isTrue unpressed =>
        have meant : decode op = .skipUnlessKey op.x := by
          rw [decode, Instruction.ofOpcode?, family, unpressed]
          rfl
        cases met
        rw [meant]
        exact ⟨rfl, rfl⟩
      case isFalse => cases met
  case h_6 => cases met
  all_goals
    next family =>
      cases met
      rw [decode, Instruction.ofOpcode?, family]
      exact ⟨rfl, rfl⟩

/-- All other words lead to the word behind them, those among them that mean nothing too. -/
theorem destination_of_not_diverts (straight : ¬ op.Diverts)
    (never : machine.condition? op = none) :
    machine.destination (decode op) = machine.registers.pc.toNat + 2 := by
  unfold Opcode.Diverts at straight
  unfold condition? at never
  cases decoded : Instruction.ofOpcode? op with
  | none =>
      rw [decode, decoded]
      rfl
  | some instruction =>
      rw [decode, decoded]
      unfold Instruction.ofOpcode? at decoded
      split at decoded
      case h_1 =>
        unfold Instruction.ofWord0? at decoded
        split at decoded
        case h_2 returns => exact absurd (.inr (.inr (.inr (.inl returns)))) straight
        all_goals cases decoded
        rfl
      case h_2 family => exact absurd (.inl family) straight
      case h_3 family => exact absurd (.inr (.inl family)) straight
      case h_9 =>
        obtain ⟨operation, -, rfl⟩ := Option.map_eq_some_iff.mp decoded
        rfl
      case h_12 family => exact absurd (.inr (.inr (.inl family))) straight
      case h_15 family =>
        unfold Instruction.ofByteE? at decoded
        split at decoded
        case h_3 => cases decoded
        all_goals
          next low =>
            rw [family, low] at never
            cases never
      case h_16 family =>
        unfold Instruction.ofByteF? at decoded
        split at decoded
        case h_2 low => exact absurd (.inr (.inr (.inr (.inr ⟨family, low⟩)))) straight
        all_goals cases decoded
        all_goals rfl
      case h_17 => cases decoded
      case h_4 family | h_5 family | h_6 family | h_10 family =>
        rw [family] at never
        cases never
      all_goals
        cases decoded
        rfl

theorem condition?_of_opposes (machine : Machine τ δ ρ β) (memory : Memory) {op' : Opcode}
    (opposes : op.Opposes op') :
    ∃ holds, machine.condition? op = some holds ∧
      ({ machine with memory } : Machine τ δ ρ β).condition? op' = some !holds := by
  obtain ⟨same_x, ⟨three, four, same⟩ | ⟨five, nine, same⟩ | ⟨key, key', pressed, unpressed⟩⟩ :=
    opposes
  · refine ⟨machine.registers.value op.x == op.nn, ?_, ?_⟩
    · simp [condition?, three]
    · simp [condition?, four, ← same, ← same_x, bne]
  · refine ⟨machine.registers.value op.x == machine.registers.value op.y, ?_, ?_⟩
    · simp [condition?, five]
    · simp [condition?, nine, ← same, ← same_x, bne]
  · refine ⟨(ScreenDisplay.keypad machine.display).holds
      (machine.registers.value op.x % 16), ?_, ?_⟩
    · simp [condition?, key, pressed]
    · simp [condition?, key', unpressed, ← same_x]

/-! ## Ticks -/

section Tick

variable [Seconds τ] [RandomSource ρ]

theorem pc_tick {instruction : Instruction} (ran : machine.tick.2 = .ok instruction) :
    machine.tick.1.registers.pc = .ofNat (machine.destination instruction) := by
  obtain ⟨-, -, -, effect⟩ := tick_of_ok ran
  rw [effect, pc_effect]

/-- A word that can skip is executed wherever it can be fetched. -/
theorem tick_of_condition (read : machine.memory.fetch machine.registers.pc = .ok op)
    (met : machine.condition? op = some holds) :
    machine.tick.2 = .ok (decode op) ∧
      machine.tick.1.registers.pc =
        if holds then machine.registers.pc + 4 else machine.registers.pc + 2 := by
  obtain ⟨inside, next⟩ := nextInstruction_of_fetch read
  obtain ⟨unstopped, leads⟩ := destination_of_condition met
  have ran : machine.tick.2 = .ok (decode op) := by
    rw [tick_of_inside inside, next, unstopped]
  refine ⟨ran, ?_⟩
  rw [pc_tick ran, leads]
  cases holds <;> simp

/-- Where a word leads to on a machine, as long as nothing stops it. -/
structure LeadsTo (machine : Machine τ δ ρ β) (op : Opcode) (next : UInt16) : Prop where
  jumps : op.family = 0x1 ∨ op.family = 0x2 → next = op.nnn
  returns : op.word = 0x00EE → machine.stack.addresses.head? = some next
  jumpsBy : op.family = 0xB →
    next.toNat = op.nnn.toNat +
      (machine.registers.value (if machine.dialect.legacyJumpOffset then 0 else op.x)).toNat
  waits : op.family = 0xF ∧ op.nn = 0x0A →
    next = if machine.keyCameUp then machine.registers.pc + 2 else machine.registers.pc
  skips : ∀ holds, machine.condition? op = some holds →
    next = if holds then machine.registers.pc + 4 else machine.registers.pc + 2
  passes : ¬ op.Diverts → machine.condition? op = none → next = machine.registers.pc + 2

theorem leadsTo_tick (read : machine.memory.fetch machine.registers.pc = .ok op)
    (ran : machine.tick.2 = .ok (decode op)) :
    machine.LeadsTo op machine.tick.1.registers.pc where
  jumps one_or_two := by
    rw [pc_tick ran, decode, Instruction.ofOpcode?]
    rcases one_or_two with one | two
    · rw [one]
      exact UInt16.ofNat_toNat
    · rw [two]
      exact UInt16.ofNat_toNat
  returns word := by
    have meant : decode op = .ret := by
      obtain rfl : op = ⟨0x00EE⟩ := congrArg Opcode.mk word
      rfl
    rw [meant] at ran
    have next : machine.tick.1.registers.pc = .ofNat (machine.stack.addresses.headD 0).toNat :=
      pc_tick ran
    obtain ⟨-, -, unstopped, -⟩ := tick_of_ok ran
    rw [next]
    cases held : machine.stack.addresses with
    | nil => simp [stop?, fault?, held] at unstopped
    | cons address rest => simp
  jumpsBy family := by
    have meant : decode op = .jumpOffset op.nnn op.x := by
      rw [decode, Instruction.ofOpcode?, family]
      rfl
    rw [meant] at ran
    let offset := machine.registers.value (if machine.dialect.legacyJumpOffset then 0 else op.x)
    have next : machine.tick.1.registers.pc = .ofNat (op.nnn.toNat + offset.toNat) := pc_tick ran
    have short := op.toNat_nnn_lt
    have byte := offset.toNat_lt
    rw [next]
    refine UInt16.toNat_ofNat'.trans (Nat.mod_eq_of_lt ?_)
    omega
  waits word := by
    have meant : decode op = .awaitKey op.x := by
      rw [decode, Instruction.ofOpcode?, word.1, word.2]
      rfl
    rw [meant] at ran
    have next : machine.tick.1.registers.pc =
        .ofNat (if machine.keyCameUp then machine.registers.pc.toNat + 2
          else machine.registers.pc.toNat) := pc_tick ran
    rw [next]
    cases machine.keyCameUp <;> simp
  skips holds met := (tick_of_condition read met).2
  passes straight never := by
    rw [pc_tick ran, destination_of_not_diverts straight never]
    simp

/-- The program counter behind a tick is where the word leads to that was fetched. Two words with
opposite conditions lead to different places on machines that differ in nothing but the word: one
of them skips. -/
theorem next_address_behind_word (machine : Machine τ δ ρ β) :
    let here := machine.registers.pc
    (∀ instruction, machine.tick.2 = .ok instruction →
      ∃ op, machine.memory.fetch here = .ok op ∧ instruction = decode op ∧ op.Digits ∧
        machine.LeadsTo op machine.tick.1.registers.pc) ∧
    ∀ (memory : Memory) (op op' : Opcode), machine.memory.fetch here = .ok op →
      memory.fetch here = .ok op' → op.Opposes op' →
      let twin := { machine with memory }
      machine.tick.2 = .ok (decode op) ∧ twin.tick.2 = .ok (decode op') ∧
        (machine.tick.1.registers.pc = here + 4 ∧ twin.tick.1.registers.pc = here + 2 ∨
          machine.tick.1.registers.pc = here + 2 ∧ twin.tick.1.registers.pc = here + 4) := by
  refine ⟨fun instruction ran => ?_, fun memory op op' read read' opposes => ?_⟩
  · obtain ⟨inside, rfl, -⟩ := tick_of_ok ran
    have read := Memory.fetch_of_none inside
    exact ⟨machine.nextWord, read, rfl, machine.nextWord.digits, leadsTo_tick read ran⟩
  · obtain ⟨holds, met, met'⟩ := machine.condition?_of_opposes memory opposes
    obtain ⟨ran, next⟩ := tick_of_condition read met
    obtain ⟨ran', next'⟩ := tick_of_condition read' met'
    refine ⟨ran, ran', ?_⟩
    cases holds with
    | true => exact .inl ⟨next, next'⟩
    | false => exact .inr ⟨next, next'⟩

/-- Of two words that compare the same two registers one skips, whatever their last digits. -/
theorem next_address_behind_opposites :
    ∃ (machine : Machine Rat HeadlessDisplay ByteCycle BuzzerTape) (memory : Memory),
      let twin := { machine with memory }
      machine.tick.2 = .ok (.skipIfSame 0xA 0xB) ∧
        twin.tick.2 = .ok (.skipUnlessSame 0xA 0xB) ∧
        machine.tick.1.registers.pc = 4 ∧ twin.tick.1.registers.pc = 2 := by
  let machine : Machine Rat HeadlessDisplay ByteCycle BuzzerTape := {
    registers := { Registers.start with pc := 0 }
    memory := (Memory.zeros 4).withOverlay 0 [0x5A, 0xB7]
    stack := .empty CallStack.machineDepth
    display := {}
    random := .ofBytes 0 []
    buzzer := {}
    dialect := {}
    period := 1
    backlog := 0
    awaitedKey := none
    journal := #[] }
  let memory := (Memory.zeros 4).withOverlay 0 [0x9A, 0xB1]
  have read : machine.memory.fetch machine.registers.pc = .ok ⟨0x5AB7⟩ := by decide +kernel
  have read' : memory.fetch machine.registers.pc = .ok ⟨0x9AB1⟩ := by decide +kernel
  have opposes : Opcode.Opposes ⟨0x5AB7⟩ ⟨0x9AB1⟩ :=
    ⟨by decide, .inr (.inl ⟨by decide, by decide, by decide⟩)⟩
  have equal : machine.condition? ⟨0x5AB7⟩ = some true := by decide +kernel
  have read_by : decode ⟨0x5AB7⟩ = .skipIfSame 0xA 0xB := by decide
  have read_by' : decode ⟨0x9AB1⟩ = .skipUnlessSame 0xA 0xB := by decide
  obtain ⟨behind, opposite⟩ := machine.next_address_behind_word
  obtain ⟨ran, ran', exclusive⟩ := opposite memory _ _ read read' opposes
  obtain ⟨op, again, -, -, leads⟩ := behind _ ran
  obtain rfl : op = ⟨0x5AB7⟩ := Except.ok.inj (again.symm.trans read)
  have skipped : machine.tick.1.registers.pc = 4 := leads.skips true equal
  refine ⟨machine, memory, read_by ▸ ran, read_by' ▸ ran', skipped, ?_⟩
  rcases exclusive with ⟨-, behind'⟩ | ⟨moved, -⟩
  · exact behind'
  · exact absurd (skipped.symm.trans moved) (by decide)

end Tick

end Machine

end Chip8
