/-
# Runs

What a host can do with a machine once it has one: load a program, call `tick` or
`cycle`, and put keys down and up, one by one or in a batch. A run is a sequence of
such events, in any order, and it goes on after an answer that is an error.

`Reachable` collects the machines that runs of new machines lead to. A statement about
all of them is proved by looking at one event, and of an event it is enough to look at
ticks, at loading and at surroundings, as `respond_induction` says.
-/

import Chip8.Proofs.Machine.Cycle

namespace Chip8

/-- Something that a host does with a machine. -/
inductive Event (τ : Type) where
  /-- Put a program into memory. -/
  | load (rom : List UInt8)
  /-- Run one instruction. -/
  | tick
  /-- Let time pass. -/
  | cycle (elapsed : τ)
  /-- Put a key down. -/
  | press (key : UInt8)
  /-- Put a key up. -/
  | release (key : UInt8)
  /-- Report keys in a batch. -/
  | update (batch : KeyBatch)

namespace Event

variable {τ : Type}

/-- Whether a key that an event names is one of the sixteen. -/
def NamesKey : Event τ → Prop
  | .press key | .release key => key.toNat < 16
  | _ => True

instance : DecidablePred (@NamesKey τ)
  | .press key | .release key => inferInstanceAs (Decidable (key.toNat < 16))
  | .load _ | .tick | .cycle _ | .update _ => .isTrue trivial

/-- Whether an event puts a program into memory. -/
def IsLoad : Event τ → Prop
  | .load _ => True
  | _ => False

end Event

/-- The answer to an event. -/
inductive Answer where
  /-- Whether a program was put into memory. -/
  | loaded (result : Except LoadError Unit)
  /-- The instruction that a tick ran. -/
  | ticked (result : Except Stop Instruction)
  /-- Whether a cycle ran an instruction. -/
  | cycled (result : Except Stop Bool)
  /-- Whether a key was put down or up. -/
  | keyed (result : Except Breach Unit)

/-- The contract that was broken, if one was. A fault of the program and a program that
does not fit break none. -/
def Answer.breach? : Answer → Option Breach
  | .ticked (.error (.breach breach)) | .cycled (.error (.breach breach)) => some breach
  | .keyed (.error breach) => some breach
  | _ => none

namespace Machine

variable {τ δ ρ β : Type}

/-! ## New machines -/

section Start

variable [Seconds τ] (config : Config) (display : δ) (random : ρ) (buzzer : β)

/-- A new machine, if there is one. -/
def fresh : Machine τ δ ρ β where
  registers := .start
  memory := (Memory.zeros config.memorySize).withOverlay fontStart font
  stack := .empty CallStack.machineDepth
  display
  random
  buzzer
  dialect := config.dialect
  period := config.instructionPeriod
  backlog := Seconds.ofNat 0
  awaitedKey := none
  journal := #[]

/-- Whether there is a new machine depends on the size of its memory alone. -/
theorem start_eq :
    (Machine.start config display random buzzer : Except Breach (Machine τ δ ρ β)) =
      if config.memorySize < romStart then .error .memoryTooSmall
      else if tableLimit < config.memorySize then .error .tableTooLarge
      else .ok (fresh config display random buzzer) := by
  rw [start, Memory.ofCapacity]
  split
  · rfl
  · split <;> rfl

/-- With room for the interpreter, and up to the size of any table, there is one. -/
theorem start_eq_fresh (roomy : romStart ≤ config.memorySize)
    (bounded : config.memorySize ≤ tableLimit) :
    (Machine.start config display random buzzer : Except Breach (Machine τ δ ρ β)) =
      .ok (fresh config display random buzzer) := by
  rw [start_eq, if_neg (Nat.not_lt.mpr roomy), if_neg (Nat.not_lt.mpr bounded)]

variable {config display random buzzer}

theorem eq_fresh_of_start {machine : Machine τ δ ρ β}
    (built : Machine.start config display random buzzer = .ok machine) :
    romStart ≤ config.memorySize ∧ machine = fresh config display random buzzer := by
  rw [start_eq] at built
  by_cases small : config.memorySize < romStart
  · rw [if_pos small] at built
    cases built
  · rw [if_neg small] at built
    by_cases large : tableLimit < config.memorySize
    · rw [if_pos large] at built
      cases built
    · rw [if_neg large] at built
      cases built
      exact ⟨Nat.le_of_not_lt small, rfl⟩

theorem consistent_fresh :
    (fresh config display random buzzer : Machine τ δ ρ β).Consistent :=
  ⟨rfl, fun _ latched => nomatch latched⟩

end Start

/-! ## Events -/

/-- Loading a program changes bytes only, and not how many there are. -/
theorem loadRom_eq (machine : Machine τ δ ρ β) (rom : List UInt8) :
    ∃ memory journal, (machine.loadRom rom).1 = { machine with memory, journal } ∧
      memory.capacity = machine.memory.capacity := by
  rw [loadRom, Memory.loadRom]
  by_cases tooLong : machine.memory.capacity - romStart < rom.length
  · exact ⟨machine.memory, machine.journal, by simp [tooLong], rfl⟩
  · exact ⟨{ (machine.memory.grow (romStart + rom.length)).withOverlay romStart rom with
        romLength := rom.length },
      machine.journal.push (.romLoaded rom.length), by simp [tooLong, record], rfl⟩

theorem loadRom_of_long {machine : Machine τ δ ρ β} {rom : List UInt8}
    (long : machine.memory.capacity - romStart < rom.length) :
    machine.loadRom rom =
      (machine, .error (.outOfSpace rom.length (machine.memory.capacity - romStart) romStart)) := by
  rw [loadRom, Memory.loadRom, if_pos long]

theorem loadRom_of_fits {machine : Machine τ δ ρ β} {rom : List UInt8}
    (fits : rom.length ≤ machine.memory.capacity - romStart) :
    (machine.loadRom rom).2 = .ok () ∧
      (machine.loadRom rom).1.memory =
        { (machine.memory.grow (romStart + rom.length)).withOverlay romStart rom with
          romLength := rom.length } := by
  rw [loadRom, Memory.loadRom, if_neg (Nat.not_lt.mpr fits)]
  exact ⟨rfl, rfl⟩

/-- A program that was put into memory had room there. -/
theorem fits_of_loadRom {machine : Machine τ δ ρ β} {rom : List UInt8}
    (loaded : (machine.loadRom rom).2 = .ok ()) :
    rom.length ≤ machine.memory.capacity - romStart := by
  by_contra long
  rw [loadRom_of_long (Nat.lt_of_not_le long)] at loaded
  cases loaded

theorem Consistent.loadRom {machine : Machine τ δ ρ β} (consistent : machine.Consistent)
    (rom : List UInt8) : (machine.loadRom rom).1.Consistent := by
  obtain ⟨memory, journal, loaded, -⟩ := machine.loadRom_eq rom
  rw [loaded]
  exact ⟨consistent.depth_eq, consistent.latch_lt⟩

section Keys

variable [Display δ] [ScreenDisplay δ]

/-- The machine with other keys down, unless there was no such key. -/
def takeKeys (machine : Machine τ δ ρ β) : Except Breach Keypad → Machine τ δ ρ β × Answer
  | .ok keys =>
      ({ machine with display := ScreenDisplay.withKeypad machine.display keys },
        .keyed (.ok ()))
  | .error breach => (machine, .keyed (.error breach))

/-- Other keys are other surroundings. -/
theorem takeKeys_eq_within (machine : Machine τ δ ρ β) (keys : Except Breach Keypad) :
    (machine.takeKeys keys).1 = machine.within (machine.takeKeys keys).1.surroundings := by
  cases keys with
  | ok keys => rfl
  | error breach => rfl

end Keys

variable [Seconds τ] [Display δ] [ScreenDisplay δ] [RandomSource ρ] [Buzzer β]

/-- What an event does, and its answer. -/
def respond (machine : Machine τ δ ρ β) : Event τ → Machine τ δ ρ β × Answer
  | .load rom => (machine.loadRom rom).map id .loaded
  | .tick => machine.tick.map id .ticked
  | .cycle elapsed => (machine.cycle elapsed).map id .cycled
  | .press key => machine.takeKeys ((ScreenDisplay.keypad machine.display).press key)
  | .release key => machine.takeKeys ((ScreenDisplay.keypad machine.display).release key)
  | .update batch => machine.takeKeys (.ok ((ScreenDisplay.keypad machine.display).update batch))

/-- What a sequence of events does, and the answers. -/
def run (machine : Machine τ δ ρ β) : List (Event τ) → Machine τ δ ρ β × List Answer
  | [] => (machine, [])
  | event :: rest =>
      let (after, answer) := machine.respond event
      let (final, answers) := after.run rest
      (final, answer :: answers)

theorem run_cons (machine : Machine τ δ ρ β) (event : Event τ) (rest : List (Event τ)) :
    (machine.run (event :: rest)).1 = ((machine.respond event).1.run rest).1 := rfl

theorem run_append (machine : Machine τ δ ρ β) (events more : List (Event τ)) :
    machine.run (events ++ more) =
      (((machine.run events).1.run more).1,
        (machine.run events).2 ++ ((machine.run events).1.run more).2) := by
  induction events generalizing machine with
  | nil => rfl
  | cons event rest ih => simp only [List.cons_append, run, ih]

/-- A run of cycles, one for each of some times. -/
theorem run_cycles_cons (machine : Machine τ δ ρ β) (elapsed : τ) (rest : List τ) :
    machine.run ((elapsed :: rest).map .cycle) =
      (((machine.cycle elapsed).1.run (rest.map .cycle)).1,
        .cycled (machine.cycle elapsed).2 ::
          ((machine.cycle elapsed).1.run (rest.map .cycle)).2) := rfl

/-- The machine behind one more cycle. -/
theorem run_cycles_concat (machine : Machine τ δ ρ β) (times : List τ) (elapsed : τ) :
    (machine.run ((times ++ [elapsed]).map .cycle)).1 =
      ((machine.run (times.map .cycle)).1.cycle elapsed).1 := by
  rw [List.map_append, run_append]
  rfl

/-- The machines that can be reached from a new one. -/
inductive Reachable : Machine τ δ ρ β → Prop where
  /-- A new machine is reachable. -/
  | start {config : Config} {display : δ} {random : ρ} {buzzer : β} {machine : Machine τ δ ρ β}
      (built : Machine.start config display random buzzer = .ok machine) : Reachable machine
  /-- So is every machine behind an event. -/
  | respond {machine : Machine τ δ ρ β} (event : Event τ) (before : Reachable machine) :
      Reachable (machine.respond event).1

/-! ## Induction over runs -/

/-- What survives ticks, does not depend on the surroundings, and survives loading where
a program is loaded, survives every event. -/
theorem respond_induction (holds : Machine τ δ ρ β → Prop)
    (tick : ∀ machine, holds machine → holds machine.tick.1)
    (within : ∀ machine around, holds machine → holds (machine.within around))
    {machine : Machine τ δ ρ β} {event : Event τ}
    (load : ∀ rom, event = .load rom → holds (machine.loadRom rom).1)
    (before : holds machine) : holds (machine.respond event).1 := by
  cases event with
  | load rom => exact load rom rfl
  | tick => exact tick machine before
  | cycle elapsed => exact cycle_induction holds tick within machine elapsed before
  | press key | release key | update batch =>
      rw [respond, takeKeys_eq_within]
      exact within machine _ before

/-- What survives each event of a run survives the run. -/
theorem run_induction (holds : Machine τ δ ρ β → Prop) {events : List (Event τ)}
    (respond : ∀ machine, ∀ event ∈ events, holds machine → holds (machine.respond event).1)
    {machine : Machine τ δ ρ β} (before : holds machine) : holds (machine.run events).1 := by
  induction events generalizing machine with
  | nil => exact before
  | cons event rest ih =>
      apply ih
      · intro machine other listed
        exact respond machine other (List.mem_cons_of_mem _ listed)
      · exact respond machine event List.mem_cons_self before

/-- Whatever is done with a reachable machine leads to reachable ones. -/
theorem Reachable.run {machine : Machine τ δ ρ β} (reachable : machine.Reachable)
    (events : List (Event τ)) : (machine.run events).1.Reachable :=
  run_induction Reachable (fun _ event _ before => .respond event before) reachable

/-! ## Invariants of all runs -/

variable {machine : Machine τ δ ρ β}

theorem Consistent.respond (consistent : machine.Consistent) (event : Event τ) :
    (machine.respond event).1.Consistent := by
  apply respond_induction Consistent
  · intro machine before
    exact before.tick
  · intro machine around before
    exact before.within around
  · intro rom _
    exact consistent.loadRom rom
  · exact consistent

/-- The same as `respond_induction`, for what survives the ticks of consistent machines. -/
theorem respond_invariant (holds : Machine τ δ ρ β → Prop)
    (tick : ∀ machine, machine.Consistent → holds machine → holds machine.tick.1)
    (within : ∀ machine around, holds machine → holds (machine.within around))
    {event : Event τ} (load : ∀ rom, event = .load rom → holds (machine.loadRom rom).1)
    (consistent : machine.Consistent) (before : holds machine) :
    holds (machine.respond event).1 := by
  have both : (machine.respond event).1.Consistent ∧ holds (machine.respond event).1 := by
    apply respond_induction fun after => after.Consistent ∧ holds after
    · rintro after ⟨known, held⟩
      exact ⟨known.tick, tick after known held⟩
    · rintro after around ⟨known, held⟩
      exact ⟨known.within around, within after around held⟩
    · intro rom loads
      exact ⟨consistent.loadRom rom, load rom loads⟩
    · exact ⟨consistent, before⟩
  exact both.2

/-- What survives each event of a run of consistent machines survives the run. -/
theorem run_invariant (holds : Machine τ δ ρ β → Prop) {events : List (Event τ)}
    (respond : ∀ machine, ∀ event ∈ events, machine.Consistent → holds machine →
      holds (machine.respond event).1)
    (consistent : machine.Consistent) (before : holds machine) :
    (machine.run events).1.Consistent ∧ holds (machine.run events).1 := by
  apply run_induction fun after => after.Consistent ∧ holds after
  · rintro after event listed ⟨known, held⟩
    exact ⟨known.respond event, respond after event listed known held⟩
  · exact ⟨consistent, before⟩

/-- Nothing that a host does changes how many bytes a machine has. -/
theorem respond_capacity (consistent : machine.Consistent) (event : Event τ) :
    (machine.respond event).1.memory.capacity = machine.memory.capacity := by
  apply respond_invariant fun after => after.memory.capacity = machine.memory.capacity
  · intro after known kept
    exact (tick_capacity known).trans kept
  · intro after around kept
    exact kept
  · intro rom _
    obtain ⟨memory, journal, loaded, kept⟩ := machine.loadRom_eq rom
    rw [loaded]
    exact kept
  · exact consistent
  · rfl

/-- Nothing that a host does changes how long an instruction takes. -/
theorem respond_period (machine : Machine τ δ ρ β) (event : Event τ) :
    (machine.respond event).1.period = machine.period := by
  apply respond_induction fun after => after.period = machine.period
  · intro after kept
    exact after.tick_leaves.2.2.1.trans kept
  · intro after around kept
    exact kept
  · intro rom _
    obtain ⟨memory, journal, loaded, -⟩ := machine.loadRom_eq rom
    rw [loaded]
  · rfl

theorem run_period (machine : Machine τ δ ρ β) (events : List (Event τ)) :
    (machine.run events).1.period = machine.period :=
  run_induction (fun after => after.period = machine.period)
    (fun after event _ kept => (respond_period after event).trans kept) rfl

theorem Reachable.consistent (reachable : machine.Reachable) : machine.Consistent := by
  induction reachable with
  | start built =>
      rw [(eq_fresh_of_start built).2]
      exact consistent_fresh
  | respond event _ ih => exact ih.respond event

/-- Every reachable machine has room for the interpreter. -/
theorem Reachable.romStart_le (reachable : machine.Reachable) :
    romStart ≤ machine.memory.capacity := by
  induction reachable with
  | start built =>
      obtain ⟨roomy, rfl⟩ := eq_fresh_of_start built
      exact roomy
  | respond event before ih =>
      rw [respond_capacity before.consistent event]
      exact ih

end Machine

end Chip8
