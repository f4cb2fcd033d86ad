/-
# Press, then release

The instruction that waits for a key takes many ticks. Which keys are down at each of
them is given by a sequence of keypads, about which nothing is assumed: keys may go down
and come up in any order, several at once, and again while the machine waits.

Such a wait has three parts. While no key is down, nothing happens. The smallest key
that is down at the first tick with any is latched and put into the register, and until
this key is up at some tick nothing else happens, whatever the other keys do. Then the
program goes on. `press_then_release` says so for waits of any length, and that nothing
beyond the register and the program counter changes meanwhile.

The machine need not be one that a run can lead to. Only the instruction at its program
counter matters, and that no key is latched when the wait begins.
-/

import Chip8.Proofs.Machine.KeyLatch
import Mathlib.Data.Nat.Find
import Mathlib.Data.Nat.Init

namespace Chip8

/-! ## Keys -/

namespace Keypad

variable {keypad : Keypad} {key : UInt8}

/-- No key is down. -/
def IsUp (keypad : Keypad) : Prop := ∀ key, keypad.holds key = false

/-- The smallest key that is down. -/
def IsFirstDown (keypad : Keypad) (key : UInt8) : Prop :=
  keypad.holds key = true ∧ ∀ other < key, keypad.holds other = false

theorem toNat_lt_of_holds (down : keypad.holds key = true) : key.toNat < 16 := by
  by_contra large
  simp [holds, large] at down

theorem exists_isFirstDown (pressed : ¬ keypad.IsUp) : ∃ key, keypad.IsFirstDown key := by
  classical
  obtain ⟨key, down⟩ : ∃ key, keypad.holds key = true := by simpa [IsUp] using pressed
  have numbered : ∃ number, ∃ key : UInt8, key.toNat = number ∧ keypad.holds key = true :=
    ⟨_, key, rfl, down⟩
  obtain ⟨least, same, leastDown⟩ := Nat.find_spec numbered
  refine ⟨least, leastDown, ?_⟩
  intro other below
  by_contra held
  have smaller : other.toNat < Nat.find numbered := by
    rw [← same]
    exact UInt8.lt_iff_toNat_lt.mp below
  exact Nat.find_min numbered smaller ⟨other, rfl, by simpa using held⟩

theorem find?_hexKeys_of_isUp (up : keypad.IsUp) :
    Machine.hexKeys.find? keypad.holds = none := by
  rw [List.find?_eq_none]
  intro key _
  simp [up key]

theorem find?_hexKeys_of_isFirstDown (first : keypad.IsFirstDown key) :
    Machine.hexKeys.find? keypad.holds = some key := by
  have named : UInt8.ofNat key.toNat = key := UInt8.ofNat_toNat
  have found : (List.range 16).find? (keypad.holds ∘ UInt8.ofNat) = some key.toNat := by
    rw [List.find?_range_eq_some]
    refine ⟨?_, List.mem_range.mpr (toNat_lt_of_holds first.1), ?_⟩
    · rw [Function.comp_apply, named]
      exact first.1
    · intro smaller below
      have wide : key.toNat < 256 := key.toNat_lt
      have earlier : UInt8.ofNat smaller < key := by
        rw [UInt8.lt_iff_toNat_lt, UInt8.toNat_ofNat']
        omega
      rw [Function.comp_apply, first.2 _ earlier]
      rfl
  rw [Machine.hexKeys, List.find?_map, found, Option.map_some, named]

end Keypad

namespace Machine

variable {τ δ ρ β : Type}

/-! ## Ticks of a machine that waits -/

/-- The program counter is at an instruction that waits for a key. -/
structure Waits (machine : Machine τ δ ρ β) (x : UInt8) : Prop where
  inside : machine.registers.pc.toNat + 2 ≤ machine.memory.capacity
  next : machine.nextInstruction = .awaitKey x

variable {machine : Machine τ δ ρ β} {x key : UInt8}

theorem waits_of_fetch {op : Opcode} (fetched : machine.memory.fetch machine.registers.pc = .ok op)
    (decoded : Instruction.decode op = .awaitKey x) : machine.Waits x := by
  obtain ⟨inside, next⟩ := nextInstruction_of_fetch fetched
  exact ⟨fetchFault?_eq_none_iff.mp inside, next.trans decoded⟩

theorem Waits.toNat_lt (waits : machine.Waits x) : x.toNat < 16 := by
  have fits := machine.nextInstruction_inRange.nibble_lt
  rw [waits.next] at fits
  exact fits x (List.mem_singleton_self x)

section Tick

variable [Seconds τ] [Display δ] [ScreenDisplay δ] [RandomSource ρ]

theorem Waits.tick_of_isUp (waits : machine.Waits x) (unlatched : machine.awaitedKey = none)
    (up : (ScreenDisplay.keypad machine.display).IsUp) :
    machine.tick = ({ machine with journal := machine.fetched.journal }, .ok (.awaitKey x)) := by
  have forgotten : machine.fetched.awaitedKey = none := unlatched
  have none_down : machine.fetched.firstDown? = none := Keypad.find?_hexKeys_of_isUp up
  rw [tick_of_awaitKey (by simp [unlatched]) waits.inside waits.next]
  simp only [await, forgotten, none_down, repeatInstruction_fetched]

theorem Waits.tick_of_isFirstDown (waits : machine.Waits x)
    (unlatched : machine.awaitedKey = none)
    (first : (ScreenDisplay.keypad machine.display).IsFirstDown key) :
    machine.tick =
      ({ machine with
          awaitedKey := some key
          registers := machine.registers.put (Registers.place x) key
          journal := machine.fetched.journal.push (.keyLatched key) },
        .ok (.awaitKey x)) := by
  have forgotten : machine.fetched.awaitedKey = none := unlatched
  have found : machine.fetched.firstDown? = some key :=
    Keypad.find?_hexKeys_of_isFirstDown first
  rw [tick_of_awaitKey (by simp [unlatched]) waits.inside waits.next]
  simp only [await, forgotten, found, latch_fetched]

theorem Waits.tick_of_latched (waits : machine.Waits x) (named : key.toNat < 16)
    (latched : machine.awaitedKey = some key) :
    machine.tick =
      (if (ScreenDisplay.keypad machine.display).holds key then
          { machine with journal := machine.fetched.journal }
        else
          { machine with
            awaitedKey := none
            registers := machine.registers.advance
            journal := machine.fetched.journal.push (.keyResolved key) },
        .ok (.awaitKey x)) := by
  have remembered : machine.fetched.awaitedKey = some key := latched
  have kept : ∀ other, machine.awaitedKey = some other → other.toNat < 16 := by
    intro other same
    rw [latched, Option.some.injEq] at same
    rwa [← same]
  rw [tick_of_awaitKey kept waits.inside waits.next]
  simp only [await, remembered, repeatInstruction_fetched]
  rfl

end Tick

/-! ## Sequences of ticks -/

section Sequence

variable [Display δ] [ScreenDisplay δ]

/-- The machine with other keys down. -/
def withKeys (machine : Machine τ δ ρ β) (keys : Keypad) : Machine τ δ ρ β :=
  { machine with display := ScreenDisplay.withKeypad machine.display keys }

/-- A machine that has waited: it has other values in its registers, another program
counter, another latch, other keys down and more in its journal. -/
def Waited (before after : Machine τ δ ρ β) (values : Vector UInt8 16) (pc : UInt16)
    (latch : Option UInt8) : Prop :=
  ∃ display journal, ScreenDisplay.screen display = ScreenDisplay.screen before.display ∧
    after =
      { before with
        registers := { before.registers with values, pc }
        awaitedKey := latch
        display
        journal }

/-- What a wait for register X leaves alone: all but X, the program counter, the latch
and the keys. -/
structure Undisturbed (x : UInt8) (before after : Machine τ δ ρ β) : Prop where
  get_eq : ∀ number, number ≠ x → after.registers.get number = before.registers.get number
  index_eq : after.registers.index = before.registers.index
  delay_eq : after.registers.delay = before.registers.delay
  sound_eq : after.registers.sound = before.registers.sound
  memory_eq : after.memory = before.memory
  stack_eq : after.stack = before.stack
  screen_eq : ScreenDisplay.screen after.display = ScreenDisplay.screen before.display
  random_eq : after.random = before.random
  buzzer_eq : after.buzzer = before.buzzer
  dialect_eq : after.dialect = before.dialect
  period_eq : after.period = before.period
  backlog_eq : after.backlog = before.backlog

variable {before after : Machine τ δ ρ β} {values : Vector UInt8 16} {pc : UInt16}
  {latch : Option UInt8} {keys : Keypad}

theorem Waited.undisturbed (waited : before.Waited after values pc latch)
    (others : ∀ number, number ≠ x →
      ({ before.registers with values, pc } : Registers τ).get number =
        before.registers.get number) :
    before.Undisturbed x after := by
  obtain ⟨display, journal, same, rfl⟩ := waited
  exact ⟨others, rfl, rfl, rfl, rfl, rfl, same, rfl, rfl, rfl, rfl, rfl⟩

theorem Waited.waits (waited : before.Waited after values before.registers.pc latch)
    (waits : before.Waits x) (keys : Keypad) : (after.withKeys keys).Waits x := by
  obtain ⟨display, journal, same, rfl⟩ := waited
  exact ⟨waits.inside, waits.next⟩

theorem Waited.registers_eq (waited : before.Waited after values pc latch) :
    after.registers = { before.registers with values, pc } := by
  obtain ⟨display, journal, same, rfl⟩ := waited
  rfl

theorem Waited.get_eq (waited : before.Waited after values pc latch) (number : UInt8) :
    after.registers.get number =
      ({ before.registers with values, pc } : Registers τ).get number :=
  congrArg (·.get number) waited.registers_eq

theorem Waited.pc_eq (waited : before.Waited after values pc latch) : after.registers.pc = pc :=
  congrArg Registers.pc waited.registers_eq

theorem Waited.awaitedKey (waited : before.Waited after values pc latch) (keys : Keypad) :
    (after.withKeys keys).awaitedKey = latch := by
  obtain ⟨display, journal, same, rfl⟩ := waited
  rfl

variable [Seconds τ] [RandomSource ρ]

theorem Waited.tick_of_isUp
    (waited : before.Waited after before.registers.values before.registers.pc none)
    (waits : before.Waits x) (up : keys.IsUp) :
    before.Waited (after.withKeys keys).tick.1 before.registers.values before.registers.pc
      none := by
  have ticked := (waited.waits waits keys).tick_of_isUp (waited.awaitedKey keys)
    (by rwa [withKeys, ScreenDisplay.keypad_withKeypad])
  obtain ⟨display, journal, same, rfl⟩ := waited
  rw [ticked]
  exact ⟨_, _, (ScreenDisplay.screen_withKeypad _ _).trans same, rfl⟩

theorem Waited.tick_of_isFirstDown
    (waited : before.Waited after before.registers.values before.registers.pc none)
    (waits : before.Waits x) (first : keys.IsFirstDown key) :
    before.Waited (after.withKeys keys).tick.1
      (before.registers.put (Registers.place x) key).values before.registers.pc (some key) := by
  have ticked := (waited.waits waits keys).tick_of_isFirstDown (waited.awaitedKey keys)
    (by rwa [withKeys, ScreenDisplay.keypad_withKeypad])
  obtain ⟨display, journal, same, rfl⟩ := waited
  rw [ticked]
  exact ⟨_, _, (ScreenDisplay.screen_withKeypad _ _).trans same, rfl⟩

theorem Waited.tick_of_holds
    (waited : before.Waited after values before.registers.pc (some key))
    (waits : before.Waits x) (down : keys.holds key = true) :
    before.Waited (after.withKeys keys).tick.1 values before.registers.pc (some key) := by
  have ticked := (waited.waits waits keys).tick_of_latched (Keypad.toNat_lt_of_holds down)
    (waited.awaitedKey keys)
  have held : (ScreenDisplay.keypad (after.withKeys keys).display).holds key = true := by
    rwa [withKeys, ScreenDisplay.keypad_withKeypad]
  rw [if_pos held] at ticked
  obtain ⟨display, journal, same, rfl⟩ := waited
  rw [ticked]
  exact ⟨_, _, (ScreenDisplay.screen_withKeypad _ _).trans same, rfl⟩

theorem Waited.tick_of_released
    (waited : before.Waited after values before.registers.pc (some key))
    (waits : before.Waits x) (named : key.toNat < 16) (up : keys.holds key = false) :
    before.Waited (after.withKeys keys).tick.1 values (before.registers.pc + 2) none := by
  have ticked := (waited.waits waits keys).tick_of_latched named (waited.awaitedKey keys)
  have released : ¬ (ScreenDisplay.keypad (after.withKeys keys).display).holds key = true := by
    rw [withKeys, ScreenDisplay.keypad_withKeypad, up]
    exact Bool.false_ne_true
  rw [if_neg released] at ticked
  obtain ⟨display, journal, same, rfl⟩ := waited
  rw [ticked]
  exact ⟨_, _, (ScreenDisplay.screen_withKeypad _ _).trans same, rfl⟩

/-- A machine after some ticks, where `keys i` are down at the tick with the number `i`. -/
def ticksWith (machine : Machine τ δ ρ β) (keys : Nat → Keypad) : Nat → Machine τ δ ρ β
  | 0 => machine
  | count + 1 => ((machine.ticksWith keys count).withKeys (keys count)).tick.1

variable {keys : Nat → Keypad}

/-- The first part of a wait. -/
theorem waited_of_isUp (waits : machine.Waits x) (unlatched : machine.awaitedKey = none)
    {count : Nat} (up : ∀ i < count, (keys i).IsUp) :
    machine.Waited (machine.ticksWith keys count) machine.registers.values
      machine.registers.pc none := by
  induction count with
  | zero => exact ⟨_, _, rfl, by rw [← unlatched]; rfl⟩
  | succ count ih =>
      have before := ih fun i below => up i (Nat.lt_succ_of_lt below)
      exact before.tick_of_isUp waits (up count (Nat.lt_succ_self count))

/-- The second part of a wait: from the first key on until it comes up. -/
theorem waited_of_holds (waits : machine.Waits x) (unlatched : machine.awaitedKey = none)
    {first last : Nat} (up : ∀ i < first, (keys i).IsUp) (pressed : (keys first).IsFirstDown key)
    (later : first < last) (down : ∀ i, first < i → i < last → (keys i).holds key = true) :
    machine.Waited (machine.ticksWith keys last)
      (machine.registers.put (Registers.place x) key).values machine.registers.pc
      (some key) := by
  induction last, later using Nat.le_induction with
  | base => exact (waited_of_isUp waits unlatched up).tick_of_isFirstDown waits pressed
  | succ last later ih =>
      have before := ih fun i behind below => down i behind (Nat.lt_succ_of_lt below)
      exact before.tick_of_holds waits (down last later (Nat.lt_succ_self last))

/-- Every tick of a wait runs the instruction that waits. -/
theorem Waited.tick_answer (waited : before.Waited after values before.registers.pc latch)
    (waits : before.Waits x) (latch_lt : ∀ key, latch = some key → key.toNat < 16)
    (keys : Keypad) : (after.withKeys keys).tick.2 = .ok (.awaitKey x) := by
  have here := waited.waits waits keys
  rw [tick_of_awaitKey (by rwa [waited.awaitedKey keys]) here.inside here.next]

/-- From an instruction that waits, without a latched key, the machine ticks with any
keys down. Until the first tick with a key down, nothing changes. That tick puts the
smallest key that is down into the register and latches it, and so things stay up to the
first tick at which this key is up. That tick goes on to the next instruction, with the
key in the register and none latched. All of these ticks run the instruction that waits,
and what it does not need is left undisturbed by all of them. -/
theorem press_then_release (keys : Nat → Keypad) {op : Opcode}
    (fetched : machine.memory.fetch machine.registers.pc = .ok op)
    (decoded : Instruction.decode op = .awaitKey x) (unlatched : machine.awaitedKey = none) :
    let after := machine.ticksWith keys
    let answer count := ((after count).withKeys (keys count)).tick.2
    (∀ count, (∀ i < count, (keys i).IsUp) →
      (after count).registers = machine.registers ∧ (after count).awaitedKey = none ∧
        machine.Undisturbed x (after count) ∧ answer count = .ok (.awaitKey x)) ∧
    ∀ first, (∀ i < first, (keys i).IsUp) → ¬ (keys first).IsUp →
      ∃ key, (keys first).IsFirstDown key ∧
        ∀ last, first < last → (∀ i, first < i → i < last → (keys i).holds key = true) →
          ((after last).registers.get x = .ok key ∧
            (after last).registers.pc = machine.registers.pc ∧
            (after last).awaitedKey = some key ∧
            machine.Undisturbed x (after last) ∧ answer last = .ok (.awaitKey x)) ∧
          ((keys last).holds key = false →
            (after (last + 1)).registers.get x = .ok key ∧
            (after (last + 1)).registers.pc = machine.registers.pc + 2 ∧
            (after (last + 1)).awaitedKey = none ∧
            machine.Undisturbed x (after (last + 1))) := by
  have waits := waits_of_fetch fetched decoded
  have small := waits.toNat_lt
  intro after answer
  constructor
  · intro count up
    have waited := waited_of_isUp waits unlatched up
    exact ⟨waited.registers_eq, waited.awaitedKey (keys count),
      waited.undisturbed fun _ _ => rfl, waited.tick_answer waits (by simp) _⟩
  · intro first up down
    obtain ⟨key, pressed⟩ := Keypad.exists_isFirstDown down
    have named := Keypad.toNat_lt_of_holds pressed.1
    have others (pc : UInt16) : ∀ number, number ≠ x →
        ({ machine.registers.put (Registers.place x) key with pc } : Registers τ).get number =
          machine.registers.get number := by
      intro number ne
      exact machine.registers.get_put_of_ne small ne key
    have held (pc : UInt16) :
        ({ machine.registers.put (Registers.place x) key with pc } : Registers τ).get x =
          .ok key := by
      rw [Registers.get_of_lt _ small, Except.ok.injEq]
      exact machine.registers.value_put_self key
    refine ⟨key, pressed, ?_⟩
    intro last later kept
    have waited := waited_of_holds waits unlatched up pressed later kept
    constructor
    · refine ⟨(waited.get_eq x).trans (held _), waited.pc_eq, waited.awaitedKey (keys last),
        waited.undisturbed (others _), waited.tick_answer waits ?_ _⟩
      rintro other ⟨⟩
      exact named
    · intro released
      have resolved := waited.tick_of_released waits named released
      exact ⟨(resolved.get_eq x).trans (held _), resolved.pc_eq, resolved.awaitedKey (keys last),
        resolved.undisturbed (others _)⟩

/-- Key 5 goes down at the second tick and comes up before the fourth, while key 2, which
went down behind it, is still held. -/
theorem press_then_release_of_two_keys :
    ∃ (machine : Machine Rat HeadlessDisplay ByteCycle BuzzerTape) (keys : Nat → Keypad),
      machine.memory.fetch machine.registers.pc = .ok ⟨0xF30A⟩ ∧ machine.awaitedKey = none ∧
        (machine.ticksWith keys 1).registers = machine.registers ∧
        (machine.ticksWith keys 3).registers.get 3 = .ok 5 ∧
        (machine.ticksWith keys 3).registers.pc = machine.registers.pc ∧
        (machine.ticksWith keys 4).registers.get 3 = .ok 5 ∧
        (machine.ticksWith keys 4).registers.pc = machine.registers.pc + 2 := by
  let unloaded : Machine Rat HeadlessDisplay ByteCycle BuzzerTape :=
    fresh { memorySize := 514 } {} (.ofBytes 0 []) {}
  let machine := (unloaded.loadRom [0xF3, 0x0A]).1
  let keys : Nat → Keypad
    | 0 => .allUp
    | 1 => Keypad.allUp.put 5 true
    | 2 => (Keypad.allUp.put 5 true).put 2 true
    | _ => Keypad.allUp.put 2 true
  have fetched : machine.memory.fetch machine.registers.pc = .ok ⟨0xF30A⟩ := by decide +kernel
  have unlatched : machine.awaitedKey = none := by decide +kernel
  have up : ∀ i < 1, (keys i).IsUp := by
    intro i below key
    obtain rfl : i = 0 := by omega
    simp [keys, Keypad.allUp, Keypad.holds, Vector.get]
  have down : ¬ (keys 1).IsUp := by
    intro allUp
    exact absurd (allUp 5) (by decide)
  have decoded : Instruction.decode ⟨0xF30A⟩ = .awaitKey 3 := by decide
  obtain ⟨waiting, protocol⟩ := press_then_release keys fetched decoded unlatched
  obtain ⟨key, pressed, released⟩ := protocol 1 up down
  obtain rfl : 5 = key := by
    have smallest : hexKeys.find? (keys 1).holds = some 5 := by decide
    exact Option.some.inj (smallest.symm.trans (Keypad.find?_hexKeys_of_isFirstDown pressed))
  have held : ∀ i, 1 < i → i < 3 → (keys i).holds 5 = true := by
    intro i behind below
    obtain rfl : i = 2 := by omega
    decide
  obtain ⟨⟨latched, waits, -⟩, resolves⟩ := released 3 (by decide) held
  obtain ⟨resolved, resumed, -⟩ := resolves (by decide)
  simp only [Nat.reduceAdd] at resolved resumed
  exact ⟨machine, keys, fetched, unlatched, (waiting 1 up).1, latched, waits, resolved, resumed⟩

end Sequence

end Machine

end Chip8
