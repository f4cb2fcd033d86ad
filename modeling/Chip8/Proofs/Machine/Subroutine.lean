/-
# Calls and returns are bracketed

A call puts the address behind it on the stack, a return takes the latest one off, and
nothing else touches the stack. So once a subroutine was called, the address behind the
call and all that lay below it stay where they are, whatever is called and left in
between, until a return takes off just this address. That is the first return which
brings the stack back to its size before the call, and it leads behind the call.

A call that finds no room and a return that finds no address are faults. Of them only
the fetch remains.
-/

import Chip8.Proofs.Machine.Atomicity
import Chip8.Proofs.Machine.History

namespace Chip8

/-- The fault that stopped something, if one did. -/
def metFault? {α : Type} : Except Stop α → Option Fault
  | .error (.fault fault) => some fault
  | _ => none

theorem eq_of_metFault? {α : Type} {result : Except Stop α} {fault : Fault}
    (met : metFault? result = some fault) : result = .error (.fault fault) := by
  unfold metFault? at met
  split at met
  case h_1 => rw [Option.some.inj met]
  case h_2 => cases met

/-- The fault that an answer reports. -/
def Answer.fault? : Answer → Option Fault
  | .ticked result => metFault? result
  | .cycled result => metFault? result
  | .loaded _ | .keyed _ => none

/-- Whether a fault is one of the call stack. -/
def Fault.OfStack : Fault → Prop
  | .stackUnderflow | .stackOverflow _ => True
  | .outOfBounds _ _ _ => False

namespace Machine

variable {τ δ ρ β : Type}

/-! ## What deeds do to the stack -/

/-- The stack behind one more deed. -/
def stackBehind (stack : CallStack) : Deed τ δ ρ β → CallStack
  | .executed machine (.call _) =>
      { stack with addresses := (machine.registers.pc + 2) :: stack.addresses }
  | .executed _ .ret => { stack with addresses := stack.addresses.tail }
  | _ => stack

variable {machine : Machine τ δ ρ β} {instruction : Instruction}

theorem stackBehind_of_other (stack : CallStack)
    (not_call : ∀ target, instruction ≠ .call target) (not_ret : instruction ≠ .ret) :
    stackBehind stack (.executed machine instruction) = stack := by
  cases instruction with
  | call target => exact absurd rfl (not_call target)
  | ret => exact absurd rfl not_ret
  | _ => rfl

/-- Only a call makes the stack longer, and only if there is room. -/
theorem size_stackBehind_le (unstopped : machine.stop? instruction = none)
    (before : machine.stack.size ≤ machine.stack.depth) :
    (stackBehind machine.stack (.executed machine instruction)).size ≤ machine.stack.depth := by
  cases instruction with
  | call target =>
      have room : machine.stack.addresses.length ≠ machine.stack.depth := by
        intro full
        rw [stop?, if_pos full] at unstopped
        cases unstopped
      exact Nat.lt_of_le_of_ne before room
  | ret =>
      have shorter : machine.stack.addresses.tail.length ≤ machine.stack.addresses.length := by
        rw [List.length_tail]
        exact Nat.sub_le _ 1
      exact Nat.le_trans shorter before
  | _ => exact before

section Fault

variable [Seconds τ] [Display δ] [RandomSource ρ]

/-- A tick that meets a fault of the stack has been able to fetch. -/
theorem attempted_of_stackFault {fault : Fault} (ofStack : fault.OfStack)
    (stopped : machine.tick.2 = .error (.fault fault)) : machine.attempted = machine.fetched := by
  refine if_pos ?_
  cases refused : machine.fetchFault? with
  | none => rfl
  | some cause =>
      rw [tick_of_fetchFault refused] at stopped
      obtain rfl : cause = fault := Stop.fault.inj (Except.error.inj stopped)
      -- A fetch only ever meets the end of the memory.
      rw [fetchFault?, Memory.spanFault?] at refused
      split at refused
      · obtain rfl := Option.some.inj refused
        exact ofStack.elim
      · cases refused

end Fault

section Effect

variable [Seconds τ] [Display δ] [ScreenDisplay δ] [RandomSource ρ]

theorem stack_effect (machine : Machine τ δ ρ β) (instruction : Instruction) :
    (machine.fetched.effect instruction).stack =
      stackBehind machine.stack (.executed machine instruction) := by
  cases instruction with
  | awaitKey x => exact machine.fetched.await_stack x
  | _ => rfl

theorem chronicle_stack (stack : CallStack) :
    Chronicle fun (past : List (Deed τ δ ρ β)) machine =>
      machine.stack = past.foldl stackBehind stack where
  loaded past machine rom _ before := by
    obtain ⟨memory, journal, loaded, -⟩ := machine.loadRom_eq rom
    rw [loaded, List.foldl_append]
    exact before
  fetched _ _ before := before
  executed past machine instruction _ _ before := by
    rw [stack_effect, before, List.foldl_append]
    rfl
  within _ _ _ _ before := before

end Effect

/-! ## Events -/

section Events

variable [Seconds τ] [Display δ] [ScreenDisplay δ] [RandomSource ρ] [Buzzer β]

/-- An event does to the stack what its deed does. -/
theorem respond_stack (machine : Machine τ δ ρ β) (event : Event τ) :
    (machine.respond event).1.stack =
      (machine.deed? event).toList.foldl stackBehind machine.stack := by
  have before : machine.stack = ([] : List (Deed τ δ ρ β)).foldl stackBehind machine.stack := rfl
  exact (chronicle_stack machine.stack).respond before event

theorem respond_stack_of_executed {event : Event τ} {actor : Machine τ δ ρ β}
    (acted : machine.deed? event = some (.executed actor instruction)) :
    (machine.respond event).1.stack =
      stackBehind machine.stack (.executed actor instruction) := by
  rw [respond_stack, acted]
  rfl

/-- Only calls and returns change the stack. -/
theorem respond_stack_of_other {event : Event τ}
    (not_call : ∀ caller target, machine.deed? event ≠ some (.executed caller (.call target)))
    (not_ret : ∀ returner, machine.deed? event ≠ some (.executed returner .ret)) :
    (machine.respond event).1.stack = machine.stack := by
  cases done : machine.deed? event with
  | none =>
      rw [respond_stack, done]
      rfl
  | some deed =>
      cases deed with
      | loaded rom =>
          rw [respond_stack, done]
          rfl
      | executed actor instruction =>
          rw [respond_stack_of_executed done]
          apply stackBehind_of_other
          · rintro target rfl
            exact not_call actor target done
          · rintro rfl
            exact not_ret actor done

/-- No reachable machine has more than sixteen active subroutines. -/
theorem Reachable.size_le (reachable : machine.Reachable) : machine.stack.size ≤ 16 := by
  induction reachable with
  | start built =>
      obtain ⟨-, rfl⟩ := eq_fresh_of_start built
      exact Nat.zero_le _
  | @respond before event reached ih =>
      by_cases other : ∀ actor instruction,
          before.deed? event ≠ some (.executed actor instruction)
      · rwa [respond_stack_of_other (fun _ _ => other _ _) (fun _ => other _ _)]
      · simp only [not_forall, not_not] at other
        obtain ⟨actor, instruction, acted⟩ := other
        obtain ⟨around, -, same, unstopped, -⟩ := eq_within_of_deed? acted
        have depth_eq : actor.stack.depth = 16 := by
          rw [same]
          exact reached.consistent.depth_eq
        have stack_eq : actor.stack = before.stack := by
          rw [same]
          rfl
        have bounded := size_stackBehind_le unstopped (by rwa [depth_eq, stack_eq])
        rwa [depth_eq, stack_eq, ← respond_stack_of_executed acted] at bounded

/-! ## From a call to its return -/

/-- An event returns from a subroutine and leaves so many active. -/
def ReturnsTo (size : Nat) (machine : Machine τ δ ρ β) (event : Event τ) : Prop :=
  (∃ returner, machine.deed? event = some (.executed returner .ret)) ∧
    (machine.respond event).1.stack.size = size

/-- No event of a run returns from a subroutine and leaves so many active. -/
def NeverReturnsTo (size : Nat) (machine : Machine τ δ ρ β) : List (Event τ) → Prop
  | [] => True
  | event :: rest =>
      ¬ machine.ReturnsTo size event ∧ NeverReturnsTo size (machine.respond event).1 rest

variable {address : UInt16} {below : List UInt16}

/-- Until an event returns to it, an address stays on the stack, with all below it. -/
theorem suffix_respond {event : Event τ}
    (kept : address :: below <:+ machine.stack.addresses)
    (stays : ¬ machine.ReturnsTo below.length event) :
    address :: below <:+ (machine.respond event).1.stack.addresses := by
  by_cases calls : ∃ caller target, machine.deed? event = some (.executed caller (.call target))
  case pos =>
    obtain ⟨caller, target, called⟩ := calls
    rw [respond_stack_of_executed called]
    exact kept.trans (List.suffix_cons _ _)
  by_cases returns : ∃ returner, machine.deed? event = some (.executed returner .ret)
  case pos =>
    obtain ⟨returner, returned⟩ := returns
    have stack_eq := respond_stack_of_executed returned
    obtain ⟨above, same⟩ := kept
    cases above with
    | nil =>
        -- The address itself was taken off, so the event returned to it.
        refine absurd ⟨⟨returner, returned⟩, ?_⟩ stays
        rw [stack_eq, stackBehind, ← same]
        rfl
    | cons latest rest =>
        rw [stack_eq, stackBehind, ← same]
        exact List.suffix_append rest _
  · simp only [not_exists] at calls returns
    rwa [respond_stack_of_other calls returns]

theorem suffix_run {inside : List (Event τ)}
    (kept : address :: below <:+ machine.stack.addresses)
    (stays : machine.NeverReturnsTo below.length inside) :
    address :: below <:+ (machine.run inside).1.stack.addresses := by
  induction inside generalizing machine with
  | nil => exact kept
  | cons event rest ih => exact ih (suffix_respond kept stays.1) stays.2

/-- The event that returns to an address leads there, and leaves what lay below it. -/
theorem respond_of_returnsTo {event : Event τ}
    (kept : address :: below <:+ machine.stack.addresses)
    (returns : machine.ReturnsTo below.length event) :
    (machine.respond event).1.registers.pc = address ∧
      (machine.respond event).1.stack.addresses = below := by
  obtain ⟨⟨returner, returned⟩, size_eq⟩ := returns
  have stack_eq := respond_stack_of_executed returned
  obtain ⟨above, split⟩ := kept
  cases above with
  | cons latest rest =>
      rw [stack_eq, CallStack.size, stackBehind, ← split] at size_eq
      simp only [List.cons_append, List.tail_cons, List.length_append, List.length_cons] at size_eq
      omega
  | nil =>
      obtain ⟨around, around', same, -, after⟩ := eq_within_of_deed? returned
      have stack_eq' : returner.stack.addresses = address :: below := by
        rw [same]
        exact split.symm
      have pc_eq : (machine.respond event).1.registers.pc =
          returner.stack.addresses.headD 0 := by
        rw [after]
        rfl
      refine ⟨?_, ?_⟩
      · rw [pc_eq, stack_eq']
        rfl
      · rw [stack_eq, stackBehind, ← split]
        rfl

/-! ## Brackets and faults -/

/-- An event that meets a fault of the stack leaves the stack alone, behind the fetch. -/
theorem respond_of_stackFault {event : Event τ} {fault : Fault}
    (met : (machine.respond event).2.fault? = some fault) (ofStack : fault.OfStack) :
    (machine.respond event).1.stack = machine.stack ∧
      (machine.respond event).1.registers.pc = machine.registers.pc + 2 := by
  cases event with
  | load rom => cases met
  | press key | release key | update batch =>
      rw [respond] at met
      unfold takeKeys at met
      split at met <;> cases met
  | tick =>
      have stopped : machine.tick.2 = .error (.fault fault) := eq_of_metFault? met
      have after : (machine.respond .tick).1 = machine.fetched :=
        (tick_of_fault stopped).trans (attempted_of_stackFault ofStack stopped)
      rw [after]
      exact ⟨rfl, rfl⟩
  | cycle elapsed =>
      have stopped : (machine.cycle elapsed).2 = .error (.fault fault) := eq_of_metFault? met
      have after : (machine.respond (.cycle elapsed)).1 = (machine.clocked elapsed).fetched :=
        (cycle_of_fault stopped).trans
          (attempted_of_stackFault ofStack (tick_of_cycle_fault stopped).1)
      rw [after]
      exact ⟨rfl, rfl⟩

/-- On every reachable machine at most sixteen subroutines are active. Only calls and
returns that succeed change the stack; a call without room and a return without an address
do not, and move the program counter no further than the fetch does. And whatever is done
behind a call, the first event that returns to the size which the stack had before it leads
behind the call, and leaves the addresses that were there before. -/
theorem calls_are_bracketed (reachable : machine.Reachable) :
    machine.stack.size ≤ 16 ∧
    (∀ event,
      (∀ caller target, machine.deed? event ≠ some (.executed caller (.call target))) →
      (∀ returner, machine.deed? event ≠ some (.executed returner .ret)) →
      (machine.respond event).1.stack = machine.stack) ∧
    (machine.registers.pc.toNat + 2 ≤ machine.memory.capacity →
      (∀ target, machine.nextInstruction = .call target → machine.stack.size = 16 →
        machine.tick.2 = .error (.fault (.stackOverflow 16))) ∧
      (machine.nextInstruction = .ret → machine.stack.size = 0 →
        machine.tick.2 = .error (.fault .stackUnderflow))) ∧
    (∀ event fault, (machine.respond event).2.fault? = some fault → fault.OfStack →
      (machine.respond event).1.stack = machine.stack ∧
        (machine.respond event).1.registers.pc = machine.registers.pc + 2) ∧
    ∀ call caller target inside back,
      machine.deed? call = some (.executed caller (.call target)) →
      let entered := (machine.respond call).1
      let leaving := (entered.run inside).1
      entered.NeverReturnsTo machine.stack.size inside →
      leaving.ReturnsTo machine.stack.size back →
        (leaving.respond back).1.registers.pc = machine.registers.pc + 2 ∧
          (leaving.respond back).1.stack.addresses = machine.stack.addresses := by
  refine ⟨reachable.size_le, fun _ => respond_stack_of_other, ?rejected,
    fun _ _ => respond_of_stackFault, ?bracket⟩
  case rejected =>
    intro inside
    have answered := tick_answer reachable.consistent
    rw [fetchFault?_eq_none_iff.mpr inside] at answered
    constructor
    · intro target next full
      have met : machine.fault? (.call target) = some (.stackOverflow 16) := if_pos full
      rw [answered, next, met]
    · intro next nothing
      have met : machine.fault? .ret = some .stackUnderflow :=
        if_pos (List.eq_nil_of_length_eq_zero nothing)
      rw [answered, next, met]
  case bracket =>
    intro call caller target inside back called entered leaving stays returns
    obtain ⟨around, -, same, -⟩ := eq_within_of_deed? called
    have pushed : entered.stack.addresses =
        (machine.registers.pc + 2) :: machine.stack.addresses := by
      rw [respond_stack_of_executed called, same]
      rfl
    exact respond_of_returnsTo (suffix_run ⟨[], pushed.symm⟩ stays) returns

end Events

/-- A subroutine that calls another one and then returns. -/
theorem calls_are_bracketed_when_nested :
    ∃ machine : Machine Rat HeadlessDisplay ByteCycle BuzzerTape,
      machine.Reachable ∧ machine.tick.2 = .ok (.call 0x204) ∧
        (machine.run [.tick, .tick, .tick, .tick]).1.registers.pc = machine.registers.pc + 2 := by
  -- What is computed is stated first, so that no machine need be looked into afterwards.
  obtain ⟨machine, entered, nested, left, reachable, ⟨enters, nests, returns⟩, computed⟩ :
      ∃ machine entered nested left : Machine Rat HeadlessDisplay ByteCycle BuzzerTape,
        machine.Reachable ∧
          ((machine.respond .tick).1 = entered ∧ (entered.respond .tick).1 = nested ∧
            (nested.respond .tick).1 = left) ∧
          machine.tick.2 = .ok (.call 0x204) ∧ entered.tick.2 = .ok (.call 0x208) ∧
          left.tick.2 = .ok .ret ∧ machine.stack.size = 0 ∧ left.stack.size = 1 ∧
          (left.respond .tick).1.stack.size = 0 := by
    let unloaded : Machine Rat HeadlessDisplay ByteCycle BuzzerTape :=
      fresh { memorySize := 522 } {} (.ofBytes 0 []) {}
    let program : List UInt8 := [0x22, 0x04, 0x12, 0x02, 0x22, 0x08, 0x00, 0xEE, 0x00, 0xEE]
    have built : start { memorySize := 522 } {} (.ofBytes 0 []) {} = .ok unloaded :=
      start_eq_fresh _ _ _ _ (by decide) (by decide)
    refine ⟨(unloaded.respond (.load program)).1, _, _, _, .respond (.load program) (.start built),
      ⟨rfl, rfl, rfl⟩, ?_⟩
    decide +kernel
  obtain ⟨called, calledAgain, leaves, none, one, cleared⟩ := computed
  obtain ⟨-, -, -, -, bracketed⟩ := calls_are_bracketed reachable
  have behind := bracketed .tick machine 0x204 [.tick, .tick] .tick (deed?_of_tick called)
  simp only [enters, nests, returns, none, run_cons] at behind
  have first : entered.NeverReturnsTo 0 [.tick, .tick] := by
    refine ⟨?_, ?_, trivial⟩
    · rintro ⟨⟨returner, ret⟩, -⟩
      rw [deed?_of_tick calledAgain] at ret
      cases ret
    · rw [nests]
      rintro ⟨-, size_eq⟩
      rw [returns, one] at size_eq
      cases size_eq
  refine ⟨machine, reachable, called, ?_⟩
  rw [run_cons, run_cons, run_cons, run_cons, enters, nests, returns]
  exact (behind first ⟨⟨left, deed?_of_tick leaves⟩, cleared⟩).1

end Machine

end Chip8
