/-
# What a run has done

A statement about a whole run often speaks about what has happened in it: which programs
were put into memory, which instructions were executed, and on which machines. The history
of a run is the list of these deeds, the oldest first. Events that did nothing to the
program leave no trace in it: a program that did not fit, a tick that met a fault, a cycle
that came too early for a tick, a key.

What is known of a machine and of its history so far is carried through a run by
`Chronicle.run_history`. It asks about loading, about fetching, and about the effect of one
instruction, and it asks that nothing is said about the surroundings but the screen.
Nothing is assumed of the machine that the run begins with.
-/

import Chip8.Proofs.Machine.Run

namespace Chip8

/-- Something that was done to what a program works with. -/
inductive Deed (τ δ ρ β : Type) where
  /-- A program was put into memory. -/
  | loaded (rom : List UInt8)
  /-- An instruction was executed, on the machine as it was before the fetch. -/
  | executed (machine : Machine τ δ ρ β) (instruction : Instruction)

namespace Machine

variable {τ δ ρ β : Type}

/-- A program that does not fit changes nothing. -/
theorem loadRom_of_error {machine : Machine τ δ ρ β} {rom : List UInt8} {error : LoadError}
    (refused : (machine.loadRom rom).2 = .error error) : (machine.loadRom rom).1 = machine := by
  unfold loadRom at refused ⊢
  cases stored : machine.memory.loadRom rom with
  | ok memory => simp [stored] at refused
  | error cause => rfl

/-- The deed of loading a program. -/
def loadDeed? (machine : Machine τ δ ρ β) (rom : List UInt8) : Option (Deed τ δ ρ β) :=
  match (machine.loadRom rom).2 with
  | .ok _ => some (.loaded rom)
  | .error _ => none

variable [Seconds τ] [Display δ] [RandomSource ρ]

/-- The deed of a tick. -/
def tickDeed? (machine : Machine τ δ ρ β) : Option (Deed τ δ ρ β) :=
  match machine.tick.2 with
  | .ok instruction => some (.executed machine instruction)
  | .error _ => none

theorem of_tickDeed? {machine actor : Machine τ δ ρ β} {instruction : Instruction}
    (acted : machine.tickDeed? = some (.executed actor instruction)) :
    actor = machine ∧ machine.tick.2 = .ok instruction := by
  unfold tickDeed? at acted
  split at acted
  case h_1 ran outcome =>
    obtain ⟨rfl, rfl⟩ := Deed.executed.inj (Option.some.inj acted)
    exact ⟨rfl, outcome⟩
  case h_2 => cases acted

section Events

variable [Buzzer β] {machine actor : Machine τ δ ρ β} {elapsed : τ}

/-- The deed of an event. -/
def deed? (machine : Machine τ δ ρ β) : Event τ → Option (Deed τ δ ρ β)
  | .load rom => machine.loadDeed? rom
  | .tick => machine.tickDeed?
  | .cycle elapsed => if machine.isEarly elapsed then none else (machine.clocked elapsed).tickDeed?
  | .press _ | .release _ | .update _ => none

theorem deed?_of_tick {instruction : Instruction} (ran : machine.tick.2 = .ok instruction) :
    machine.deed? .tick = some (.executed machine instruction) := by
  rw [deed?, tickDeed?, ran]

theorem deed?_of_early (early : machine.isEarly elapsed = true) :
    machine.deed? (.cycle elapsed) = none :=
  if_pos early

theorem deed?_of_due (due : machine.isEarly elapsed = false) :
    machine.deed? (.cycle elapsed) = (machine.clocked elapsed).tickDeed? :=
  if_neg (by simp [due])

/-- A cycle that is not too early does what its tick does. -/
theorem deed?_of_cycle {instruction : Instruction} (due : machine.isEarly elapsed = false)
    (ran : (machine.clocked elapsed).tick.2 = .ok instruction) :
    machine.deed? (.cycle elapsed) = some (.executed (machine.clocked elapsed) instruction) :=
  (deed?_of_due due).trans (deed?_of_tick ran)

/-- An instruction that was executed is the answer of a tick. -/
theorem tick_of_deed? {event : Event τ} {instruction : Instruction}
    (acted : machine.deed? event = some (.executed actor instruction)) :
    actor.tick.2 = .ok instruction := by
  cases event with
  | load rom =>
      rw [deed?, loadDeed?] at acted
      split at acted <;> cases acted
  | press key | release key | update batch => cases acted
  | tick =>
      obtain ⟨rfl, ran⟩ := of_tickDeed? acted
      exact ran
  | cycle elapsed =>
      cases due : machine.isEarly elapsed with
      | true =>
          rw [deed?_of_early due] at acted
          cases acted
      | false =>
          rw [deed?_of_due due] at acted
          obtain ⟨rfl, ran⟩ := of_tickDeed? acted
          exact ran

end Events

variable [ScreenDisplay δ]

/-- A cycle whose deed is an instruction has its effect once time has passed, and then shows
the screen and reads the keys. -/
theorem cycle_of_deed? [Buzzer β] {machine actor : Machine τ δ ρ β} {elapsed : τ}
    {instruction : Instruction}
    (acted : machine.deed? (.cycle elapsed) = some (.executed actor instruction)) :
    actor = machine.clocked elapsed ∧ actor.nextInstruction = instruction ∧
      actor.stop? instruction = none ∧
      (machine.cycle elapsed).1 = (actor.fetched.effect instruction).refresh := by
  cases due : machine.isEarly elapsed with
  | true =>
      rw [deed?_of_early due] at acted
      cases acted
  | false =>
      rw [deed?_of_due due] at acted
      obtain ⟨rfl, ran⟩ := of_tickDeed? acted
      obtain ⟨-, next, unstopped, after⟩ := tick_of_ok ran
      rw [cycle_of_ok due ran, after]
      exact ⟨rfl, next, unstopped, rfl⟩

/-- An event whose deed is an instruction has the effect of that instruction, on the same
machine in other surroundings. -/
theorem eq_within_of_deed? [Buzzer β] {machine actor : Machine τ δ ρ β} {event : Event τ}
    {instruction : Instruction}
    (acted : machine.deed? event = some (.executed actor instruction)) :
    ∃ before after, actor = machine.within before ∧ actor.stop? instruction = none ∧
      (machine.respond event).1 = (actor.fetched.effect instruction).within after := by
  cases event with
  | load rom =>
      rw [deed?, loadDeed?] at acted
      split at acted <;> cases acted
  | press key | release key | update batch => cases acted
  | tick =>
      obtain ⟨rfl, ran⟩ := of_tickDeed? acted
      obtain ⟨-, -, unstopped, after⟩ := tick_of_ok ran
      refine ⟨actor.surroundings, actor.tick.1.surroundings, rfl, unstopped, ?_⟩
      rw [← after]
      rfl
  | cycle elapsed =>
      obtain ⟨clocked, -, unstopped, after⟩ := cycle_of_deed? acted
      refine ⟨_, (actor.fetched.effect instruction).refresh.surroundings,
        clocked.trans (clocked_eq_within machine elapsed), unstopped, ?_⟩
      rw [← refresh_eq_within]
      exact after

/-- The deeds of a run. -/
def history [Buzzer β] (machine : Machine τ δ ρ β) : List (Event τ) → List (Deed τ δ ρ β)
  | [] => []
  | event :: rest => (machine.deed? event).toList ++ (machine.respond event).1.history rest

/-- A run that begins with a tick that succeeds. -/
theorem history_of_tick [Buzzer β] {machine : Machine τ δ ρ β} {instruction : Instruction}
    (ran : machine.tick.2 = .ok instruction) (rest : List (Event τ)) :
    machine.history (.tick :: rest) =
      .executed machine instruction :: machine.tick.1.history rest := by
  rw [history, deed?_of_tick ran]
  rfl

/-- What holds of a machine and its history, if it holds of a machine and what was done
before, and if deeds, fetches and other surroundings with the same screen keep it. -/
structure Chronicle (holds : List (Deed τ δ ρ β) → Machine τ δ ρ β → Prop) : Prop where
  loaded : ∀ past machine rom, (machine.loadRom rom).2 = .ok () → holds past machine →
    holds (past ++ [.loaded rom]) (machine.loadRom rom).1
  fetched : ∀ past machine, holds past machine → holds past machine.fetched
  executed : ∀ past machine instruction, machine.nextInstruction = instruction →
    machine.stop? instruction = none → holds past machine →
    holds (past ++ [.executed machine instruction]) (machine.fetched.effect instruction)
  within : ∀ past machine around,
    ScreenDisplay.screen around.display = ScreenDisplay.screen machine.display →
    holds past machine → holds past (machine.within around)

namespace Chronicle

variable {holds : List (Deed τ δ ρ β) → Machine τ δ ρ β → Prop}
  {past : List (Deed τ δ ρ β)} {machine : Machine τ δ ρ β}

theorem tick (chronicle : Chronicle holds) (before : holds past machine) :
    holds (past ++ machine.tickDeed?.toList) machine.tick.1 := by
  unfold tickDeed?
  cases outcome : machine.tick.2 with
  | ok instruction =>
      obtain ⟨-, next, unstopped, after⟩ := tick_of_ok outcome
      rw [after]
      exact chronicle.executed past machine instruction next unstopped before
  | error stop =>
      rw [Option.toList_none, List.append_nil]
      rcases tick_of_error outcome with kept | moved
      · rwa [kept]
      · rw [moved]
        exact chronicle.fetched past machine before

theorem loadRom (chronicle : Chronicle holds) (before : holds past machine) (rom : List UInt8) :
    holds (past ++ (machine.loadDeed? rom).toList) (machine.loadRom rom).1 := by
  unfold loadDeed?
  cases outcome : (machine.loadRom rom).2 with
  | ok loaded => exact chronicle.loaded past machine rom outcome before
  | error refused =>
      rw [Option.toList_none, List.append_nil, loadRom_of_error outcome]
      exact before

theorem takeKeys (chronicle : Chronicle holds) (before : holds past machine)
    (keys : Except Breach Keypad) : holds past (machine.takeKeys keys).1 := by
  rw [takeKeys_eq_within]
  refine chronicle.within past machine _ ?_ before
  cases keys with
  | ok keys => exact ScreenDisplay.screen_withKeypad _ _
  | error breach => rfl

variable [Buzzer β]

theorem cycle (chronicle : Chronicle holds) (before : holds past machine) (elapsed : τ) :
    holds (past ++ (machine.deed? (.cycle elapsed)).toList) (machine.cycle elapsed).1 := by
  cases due : machine.isEarly elapsed with
  | true =>
      rw [deed?_of_early due, Option.toList_none, List.append_nil, cycle_of_early due,
        passTime_eq_within]
      exact chronicle.within past machine _ rfl before
  | false =>
      rw [deed?_of_due due]
      have clocked : holds past (machine.clocked elapsed) := by
        rw [clocked_eq_within]
        exact chronicle.within past machine _ rfl before
      have ticked := chronicle.tick clocked
      cases outcome : (machine.clocked elapsed).tick.2 with
      | error stop =>
          rw [cycle_of_stop due outcome]
          exact ticked
      | ok instruction =>
          rw [cycle_of_ok due outcome, refresh_eq_within]
          refine chronicle.within _ _ _ ?_ ticked
          exact (ScreenDisplay.screen_pollInput _).trans (ScreenDisplay.screen_presentFrame _)

/-- One event keeps what deeds, fetches and surroundings keep. -/
theorem respond (chronicle : Chronicle holds) (before : holds past machine) (event : Event τ) :
    holds (past ++ (machine.deed? event).toList) (machine.respond event).1 := by
  cases event with
  | load rom => exact chronicle.loadRom before rom
  | tick => exact chronicle.tick before
  | cycle elapsed => exact chronicle.cycle before elapsed
  | press key | release key | update batch =>
      rw [deed?, Option.toList_none, List.append_nil]
      exact chronicle.takeKeys before _

/-- So does a whole run. -/
theorem run_history (chronicle : Chronicle holds) (before : holds past machine)
    (events : List (Event τ)) :
    holds (past ++ machine.history events) (machine.run events).1 := by
  induction events generalizing past machine with
  | nil => rwa [history, List.append_nil]
  | cons event rest ih =>
      rw [history, ← List.append_assoc]
      exact ih (chronicle.respond before event)

end Chronicle

end Machine

end Chip8
