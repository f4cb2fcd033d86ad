/-
# Where a program goes on

`destination` is the address at which a program goes on behind an instruction, as a natural
number: nothing in it wraps around. The program counter does. It has sixteen bits, and so it is
the destination counted round, on any machine.

On a machine that is a little smaller than what sixteen bits can address it never has to be.
Only the bytes of the memory are fetched, so the program counter is at most four behind an
address of the memory, or it was given by a jump, which reaches no further than twelve bits and
a byte. Return addresses lie behind a call and hence in the memory. A program that goes on
outside of it stays there: it meets the same fault in every tick, and no event brings it back.
-/

import Chip8.Proofs.Machine.KeyLatch
import Chip8.Proofs.Machine.Subroutine
import Mathlib.Order.MinMax

namespace Chip8

/-- What a machine answers that can do nothing but meet one fault. -/
def Answer.MeetsOnly (fault : Fault) : Answer → Prop
  | .ticked result => result = .error (.fault fault)
  | .cycled result => result = .ok false ∨ result = .error (.fault fault)
  | .loaded _ | .keyed _ => True

namespace Machine

variable {τ δ ρ β : Type}

/-! ## Destinations -/

section Destination

variable [Display δ] [ScreenDisplay δ]

/-- Whether an instruction skips the one behind it. -/
def skips (machine : Machine τ δ ρ β) : Instruction → Bool
  | .skipIfByte x byte => machine.registers.value x == byte
  | .skipUnlessByte x byte => machine.registers.value x != byte
  | .skipIfSame x y => machine.registers.value x == machine.registers.value y
  | .skipUnlessSame x y => machine.registers.value x != machine.registers.value y
  | .skipIfKey x => machine.keyDown x
  | .skipUnlessKey x => !machine.keyDown x
  | _ => false

/-- Whether a key is latched and has come up again. -/
def keyCameUp (machine : Machine τ δ ρ β) : Bool :=
  machine.awaitedKey.any fun key => !(ScreenDisplay.keypad machine.display).holds key

/-- The address at which a program goes on behind the instruction at the program counter,
without wrapping around. -/
def destination (machine : Machine τ δ ρ β) (instruction : Instruction) : Nat :=
  let here := machine.registers.pc.toNat
  match instruction with
  | .jump target | .call target => target.toNat
  | .ret => (machine.stack.addresses.headD 0).toNat
  | .jumpOffset base x =>
      base.toNat +
        (machine.registers.value (if machine.dialect.legacyJumpOffset then 0 else x)).toNat
  | .awaitKey _ => if machine.keyCameUp then here + 2 else here
  | _ => if machine.skips instruction then here + 4 else here + 2

theorem pc_await (machine : Machine τ δ ρ β) (x : UInt8) :
    (machine.fetched.await x).registers.pc =
      if machine.keyCameUp then machine.registers.pc + 2 else machine.registers.pc := by
  have repeats : machine.fetched.repeatInstruction.registers.pc = machine.registers.pc := by
    rw [repeatInstruction_fetched]
  have latch_eq : machine.fetched.awaitedKey = machine.awaitedKey := rfl
  have display_eq : machine.fetched.display = machine.display := rfl
  unfold await keyCameUp
  rw [latch_eq, display_eq]
  cases machine.awaitedKey with
  | none =>
      cases machine.fetched.firstDown? with
      | none => exact repeats
      | some key =>
          simp only [latch_fetched]
          rfl
  | some key =>
      rw [Option.any_some]
      by_cases down : (ScreenDisplay.keypad machine.display).holds key = true
      · simp only [down]
        exact repeats
      · simp only [down]
        rfl

/-- The program counter has sixteen bits: it is the destination, counted round. -/
theorem pc_effect [Seconds τ] [RandomSource ρ] (machine : Machine τ δ ρ β)
    (instruction : Instruction) :
    (machine.fetched.effect instruction).registers.pc =
      .ofNat (machine.destination instruction) := by
  have skipped (condition : Bool) :
      (machine.fetched.registers.skipIf condition).pc =
        .ofNat (if condition then machine.registers.pc.toNat + 4
          else machine.registers.pc.toNat + 2) := by
    cases condition with
    | true => simp [Registers.skipIf, Registers.advance, fetched, UInt16.add_assoc]
    | false => simp [Registers.skipIf, fetched]
  cases instruction with
  | jump target | call target => exact UInt16.ofNat_toNat.symm
  | ret => exact UInt16.ofNat_toNat.symm
  | jumpOffset base x =>
      have counted (offset : UInt8) :
          base + offset.toUInt16 = .ofNat (base.toNat + offset.toNat) := by simp
      exact counted _
  | awaitKey x =>
      refine (machine.pc_await x).trans ?_
      unfold destination
      cases machine.keyCameUp <;> simp
  | skipIfByte x byte | skipUnlessByte x byte | skipIfSame x y | skipUnlessSame x y
  | skipIfKey x | skipUnlessKey x => exact skipped _
  | alu op x y => cases op <;> exact skipped false
  | _ => exact skipped false

end Destination

/-! ## Addresses that a program can reach -/

/-- The addresses that a machine works with are no further than a skip behind the memory, or
than a jump reaches. Those to return to are in the memory or right behind it. -/
structure InBounds (machine : Machine τ δ ρ β) : Prop where
  capacity_le : machine.memory.capacity ≤ 65533
  pc_le : machine.registers.pc.toNat ≤ max (machine.memory.capacity + 2) 0x10FE
  returns : ∀ address ∈ machine.stack.addresses,
    2 ≤ address.toNat ∧ address.toNat ≤ machine.memory.capacity

namespace InBounds

variable {machine : Machine τ δ ρ β} {instruction : Instruction}

theorem within (bounds : machine.InBounds) (around : Surroundings τ δ β) :
    (machine.within around).InBounds :=
  ⟨bounds.capacity_le, bounds.pc_le, bounds.returns⟩

theorem loadRom (bounds : machine.InBounds) (rom : List UInt8) :
    (machine.loadRom rom).1.InBounds := by
  obtain ⟨memory, journal, loaded, kept⟩ := machine.loadRom_eq rom
  rw [loaded]
  exact ⟨by rw [kept]; exact bounds.capacity_le, by rw [kept]; exact bounds.pc_le,
    by rw [kept]; exact bounds.returns⟩

/-- Behind a fetch, the program counter has moved by two and is not behind the memory. -/
theorem toNat_pc_fetched (bounds : machine.InBounds) (inside : machine.fetchFault? = none) :
    machine.fetched.registers.pc.toNat = machine.registers.pc.toNat + 2 ∧
      machine.fetched.registers.pc.toNat ≤ machine.memory.capacity := by
  have fits := fetchFault?_eq_none_iff.mp inside
  have small := bounds.capacity_le
  have moved : machine.fetched.registers.pc.toNat = machine.registers.pc.toNat + 2 := by
    change (machine.registers.pc + 2).toNat = _
    rw [UInt16.toNat_add]
    exact Nat.mod_eq_of_lt (Nat.lt_of_le_of_lt fits (by omega))
  exact ⟨moved, moved ▸ fits⟩

theorem fetched (bounds : machine.InBounds) (inside : machine.fetchFault? = none) :
    machine.fetched.InBounds := by
  obtain ⟨-, fits⟩ := bounds.toNat_pc_fetched inside
  exact ⟨bounds.capacity_le, le_max_of_le_left (Nat.le_add_right_of_le fits), bounds.returns⟩

variable [Display δ] [ScreenDisplay δ]

/-- A program that is in the memory goes on within the bounds. -/
theorem destination_le (bounds : machine.InBounds) (fits : instruction.InRange)
    (inside : machine.fetchFault? = none) :
    machine.destination instruction ≤ max (machine.memory.capacity + 2) 0x10FE := by
  have near := fetchFault?_eq_none_iff.mp inside
  have skipped : (if machine.skips instruction then machine.registers.pc.toNat + 4
      else machine.registers.pc.toNat + 2) ≤ max (machine.memory.capacity + 2) 0x10FE := by
    split <;> omega
  have addressed := fits.address_lt
  cases instruction with
  | jump target | call target =>
      have short : target.toNat < 4096 := addressed target List.mem_cons_self
      have bounded : target.toNat ≤ 0x10FE := by omega
      exact le_max_of_le_right bounded
  | jumpOffset base x =>
      have short : base.toNat < 4096 := addressed base List.mem_cons_self
      have offset := (machine.registers.value
        (if machine.dialect.legacyJumpOffset then 0 else x)).toNat_lt
      refine le_max_of_le_right ?_
      unfold destination
      dsimp only
      omega
  | ret =>
      refine le_max_of_le_left ?_
      unfold destination
      cases listed : machine.stack.addresses with
      | nil => exact Nat.zero_le _
      | cons address rest =>
          have returned := (bounds.returns address (by rw [listed]; exact List.mem_cons_self)).2
          exact Nat.le_add_right_of_le returned
  | awaitKey x =>
      refine le_max_of_le_left ?_
      unfold destination
      dsimp only
      split <;> omega
  | _ => exact skipped

variable [Seconds τ] [RandomSource ρ]

theorem toNat_pc_effect (bounds : machine.InBounds) (fits : instruction.InRange)
    (inside : machine.fetchFault? = none) :
    (machine.fetched.effect instruction).registers.pc.toNat = machine.destination instruction := by
  have bounded := bounds.destination_le fits inside
  have small := bounds.capacity_le
  rw [pc_effect, UInt16.toNat_ofNat']
  exact Nat.mod_eq_of_lt (by omega)

/-- One instruction that was fetched leaves all addresses within the bounds. -/
theorem effect (bounds : machine.InBounds) (fits : instruction.InRange)
    (inside : machine.fetchFault? = none) : (machine.fetched.effect instruction).InBounds := by
  have capacity_eq : (machine.fetched.effect instruction).memory.capacity =
      machine.memory.capacity := effect_capacity
  obtain ⟨moved, near⟩ := bounds.toNat_pc_fetched inside
  refine ⟨by rw [capacity_eq]; exact bounds.capacity_le, ?_, ?_⟩
  · rw [capacity_eq, bounds.toNat_pc_effect fits inside]
    exact bounds.destination_le fits inside
  · rw [capacity_eq, stack_effect]
    intro address listed
    -- Only a call puts an address on the stack, and that is where the fetch has gone.
    cases instruction with
    | call target =>
        rcases List.mem_cons.mp listed with rfl | below
        · exact ⟨by change 2 ≤ machine.fetched.registers.pc.toNat; omega, near⟩
        · exact bounds.returns address below
    | ret => exact bounds.returns address (List.mem_of_mem_tail listed)
    | _ => exact bounds.returns address listed

theorem tick (bounds : machine.InBounds) : machine.tick.1.InBounds := by
  cases outcome : machine.tick.2 with
  | ok instruction =>
      obtain ⟨inside, next, -, after⟩ := tick_of_ok outcome
      rw [after]
      exact bounds.effect (next ▸ machine.nextInstruction_inRange) inside
  | error stop =>
      cases refused : machine.fetchFault? with
      | some fault =>
          rw [tick_of_fetchFault refused]
          exact bounds
      | none =>
          rcases tick_of_error outcome with kept | moved
          · rwa [kept]
          · rw [moved]
            exact bounds.fetched refused

theorem respond [Buzzer β] (bounds : machine.InBounds) (event : Event τ) :
    (machine.respond event).1.InBounds := by
  apply respond_induction InBounds
  · exact fun _ before => before.tick
  · exact fun _ around before => before.within around
  · exact fun rom _ => bounds.loadRom rom
  · exact bounds

end InBounds

/-! ## Outside of the memory -/

theorem fetchDecode_of_ok {machine : Machine τ δ ρ β} {instruction : Instruction}
    (read : machine.fetchDecode.2 = .ok instruction) :
    machine.fetchFault? = none ∧ machine.fetchDecode.1 = machine.fetched := by
  cases refused : machine.fetchFault? with
  | none =>
      rw [fetchDecode, Memory.fetch_of_none refused]
      exact ⟨rfl, rfl⟩
  | some fault =>
      rw [fetchDecode, Memory.fetch_of_some refused] at read
      cases read

section Outside

variable [Seconds τ] [Display δ] [ScreenDisplay δ] [RandomSource ρ] [Buzzer β]
variable {machine : Machine τ δ ρ β} {fault : Fault}

/-- While the next fetch meets a fault, nothing else comes of any event, and the program counter
stays where it is. -/
theorem respond_of_fetchFault (refused : machine.fetchFault? = some fault) (event : Event τ) :
    (machine.respond event).1.fetchFault? = some fault ∧
      (machine.respond event).1.registers.pc = machine.registers.pc ∧
      (machine.respond event).2.MeetsOnly fault := by
  cases event with
  | load rom =>
      obtain ⟨memory, journal, loaded, kept⟩ := machine.loadRom_eq rom
      have after : (machine.respond (.load rom)).1 = { machine with memory, journal } := loaded
      rw [after]
      refine ⟨?_, rfl, trivial⟩
      rw [← refused, fetchFault?, fetchFault?, Memory.spanFault?, Memory.spanFault?, kept]
  | tick =>
      have ticked : machine.respond .tick = (machine, .ticked (.error (.fault fault))) := by
        rw [respond, tick_of_fetchFault refused]
        rfl
      rw [ticked]
      exact ⟨refused, rfl, rfl⟩
  | cycle elapsed =>
      have cycled : machine.respond (.cycle elapsed) =
          ((machine.cycle elapsed).1, .cycled (machine.cycle elapsed).2) := rfl
      rw [cycled]
      cases due : machine.isEarly elapsed with
      | true =>
          rw [cycle_of_early due]
          exact ⟨refused, rfl, .inl rfl⟩
      | false =>
          have stopped : (machine.clocked elapsed).tick =
              (machine.clocked elapsed, .error (.fault fault)) := tick_of_fetchFault refused
          rw [cycle_of_stop due (congrArg Prod.snd stopped), stopped]
          exact ⟨refused, rfl, .inr rfl⟩
  | press key | release key | update batch =>
      rw [respond]
      unfold takeKeys
      split <;> exact ⟨refused, rfl, trivial⟩

/-- A program that is outside of the memory stays there, and meets the same fault again and
again. -/
theorem run_of_fetchFault (refused : machine.fetchFault? = some fault)
    (events : List (Event τ)) :
    (machine.run events).1.registers.pc = machine.registers.pc ∧
      ∀ answer ∈ (machine.run events).2, answer.MeetsOnly fault := by
  induction events generalizing machine with
  | nil => exact ⟨rfl, fun _ listed => nomatch listed⟩
  | cons event rest ih =>
      obtain ⟨again, stays, answered⟩ := respond_of_fetchFault refused event
      obtain ⟨staysBehind, answeredBehind⟩ := ih again
      refine ⟨staysBehind.trans stays, ?_⟩
      intro answer listed
      rcases List.mem_cons.mp listed with rfl | behind
      · exact answered
      · exact answeredBehind answer behind

end Outside

/-! ## Reachable machines -/

section Reachable

variable [Seconds τ] [Display δ] [ScreenDisplay δ] [RandomSource ρ] [Buzzer β]
variable {machine : Machine τ δ ρ β}

theorem Reachable.inBounds (reachable : machine.Reachable)
    (small : machine.memory.capacity ≤ 65533) : machine.InBounds := by
  induction reachable with
  | start built =>
      obtain ⟨-, rfl⟩ := eq_fresh_of_start built
      have begins : romStart ≤ 0x10FE := by decide
      exact ⟨small, le_max_of_le_right begins, fun _ listed => nomatch listed⟩
  | respond event before ih =>
      rw [respond_capacity before.consistent event] at small
      exact (ih small).respond event

/-- On a reachable machine of at most 65533 bytes the program counter is at most two behind the
memory, or at most where a jump can lead, and every return address is in the memory or right
behind it. So moving on behind a fetch, and once more to skip an instruction, adds to the program
counter what it says in natural numbers, and going back, or naming the word in a warning, takes
off what is there. An instruction that was executed leads to its destination in natural numbers.
If this lies outside of the memory, then all that any later event can come to is the fault of
fetching from there. -/
theorem counter_never_wraps (reachable : machine.Reachable)
    (small : machine.memory.capacity ≤ 65533) :
    let capacity := machine.memory.capacity
    let here := machine.registers.pc.toNat
    (here ≤ max (capacity + 2) 0x10FE ∧
      ∀ address ∈ machine.stack.addresses, 2 ≤ address.toNat ∧ address.toNat ≤ capacity) ∧
    (∀ instruction, machine.fetchDecode.2 = .ok instruction →
      let registers := machine.fetchDecode.1.registers
      machine.registers.advance.pc.toNat = here + 2 ∧ registers.pc.toNat = here + 2 ∧
        registers.advance.pc.toNat = here + 4 ∧ registers.retreat.pc.toNat = here ∧
        (registers.pc - 2).toNat = here) ∧
    ∀ event actor instruction, machine.deed? event = some (.executed actor instruction) →
      let behind := (machine.respond event).1
      let target := actor.destination instruction
      actor.registers.pc = machine.registers.pc ∧ behind.registers.pc.toNat = target ∧
        (capacity < target + 2 → ∀ events,
          (behind.run events).1.registers.pc.toNat = target ∧
            ∀ answer ∈ (behind.run events).2,
              answer.MeetsOnly (.outOfBounds target 2 capacity)) := by
  intro capacity here
  have bounds := reachable.inBounds small
  refine ⟨⟨bounds.pc_le, bounds.returns⟩, ?_, ?_⟩
  · intro instruction read registers
    obtain ⟨inside, after⟩ := fetchDecode_of_ok read
    obtain ⟨moved, near⟩ := bounds.toNat_pc_fetched inside
    have skipped : machine.fetched.registers.advance.pc.toNat = here + 4 := by
      have room : here + 2 + 2 < 65536 := by omega
      change (machine.fetched.registers.pc + 2).toNat = _
      rw [UInt16.toNat_add, moved]
      exact Nat.mod_eq_of_lt room
    have back : (machine.fetched.registers.pc - 2).toNat = here :=
      congrArg UInt16.toNat (UInt16.add_sub_cancel machine.registers.pc 2)
    have registers_eq : registers = machine.fetched.registers := congrArg Machine.registers after
    rw [registers_eq]
    exact ⟨moved, moved, skipped, back, back⟩
  · intro event actor instruction acted behind target
    obtain ⟨before, after, same, -, ended⟩ := eq_within_of_deed? acted
    obtain ⟨inside, next, -⟩ := tick_of_ok (tick_of_deed? acted)
    have actorBounds : actor.InBounds := same ▸ bounds.within before
    have led : behind.registers.pc.toNat = target :=
      (congrArg (fun machine => machine.registers.pc.toNat) ended).trans
        (actorBounds.toNat_pc_effect (next ▸ actor.nextInstruction_inRange) inside)
    refine ⟨congrArg (fun machine => machine.registers.pc) same, led, ?_⟩
    intro outside events
    have kept : behind.memory.capacity = capacity := respond_capacity reachable.consistent event
    have refused : behind.fetchFault? = some (.outOfBounds target 2 capacity) := by
      rw [fetchFault?, Memory.spanFault?, led, kept, if_pos outside]
    obtain ⟨stays, answered⟩ := run_of_fetchFault refused events
    exact ⟨by rw [stays, led], answered⟩

/-- A jump by a register to the furthest place that a jump reaches, in a memory that ends right
behind it. -/
theorem counter_never_wraps_behind_jump :
    ∃ machine : Machine Rat HeadlessDisplay ByteCycle BuzzerTape,
      machine.Reachable ∧ machine.memory.capacity = 516 ∧
        machine.tick.2 = .ok (.jumpOffset 0xFFF 0xF) ∧
        (machine.respond .tick).1.registers.pc.toNat = 0x10FE ∧
        ∀ answer ∈ ((machine.respond .tick).1.run [.tick, .press 3, .cycle 1]).2,
          answer.MeetsOnly (.outOfBounds 0x10FE 2 516) := by
  let unloaded : Machine Rat HeadlessDisplay ByteCycle BuzzerTape :=
    fresh { memorySize := 516 } {} (.ofBytes 0 []) {}
  let machine := (unloaded.run [.load [0x60, 0xFF, 0xBF, 0xFF], .tick]).1
  have built : start { memorySize := 516 } {} (.ofBytes 0 []) {} = .ok unloaded :=
    start_eq_fresh _ _ _ _ (by decide) (by decide)
  have reachable : machine.Reachable := (Reachable.start built).run _
  have size : machine.memory.capacity = 516 := by decide +kernel
  have jumps : machine.tick.2 = .ok (.jumpOffset 0xFFF 0xF) := by decide +kernel
  have far : machine.destination (.jumpOffset 0xFFF 0xF) = 0x10FE := by decide +kernel
  obtain ⟨-, -, led⟩ := counter_never_wraps reachable (by rw [size]; decide)
  obtain ⟨-, there, stuck⟩ := led .tick machine _ (deed?_of_tick jumps)
  rw [far, size] at stuck
  exact ⟨machine, reachable, size, jumps, there.trans far, (stuck (by decide) _).2⟩

end Reachable

end Machine

end Chip8
