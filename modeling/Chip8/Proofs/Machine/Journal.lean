/-
# What ticks report

A tick that fetches a word reports it first, with the address that it was fetched from: the
program counter as it was before. What else a tick writes into the journal depends on what was
fetched, and on the latch. So the journal is followed together with the key that is latched, if
one is, and with the instruction that waits for it.

`Tells` says of two machines what was written on the way from one to the other. It holds from one
event to the next, and so of whole runs.
-/

import Chip8.Proofs.Log.Order
import Chip8.Proofs.Machine.KeyLatch

namespace Chip8

/-- Whether an event is a tick or is about keys. -/
def Event.IsTickOrKey {τ : Type} : Event τ → Prop
  | .load _ | .cycle _ => False
  | .tick | .press _ | .release _ | .update _ => True

namespace Machine

variable {τ δ ρ β : Type}

/-- The report of the word at the program counter. -/
def report (machine : Machine τ δ ρ β) : LogRecord :=
  .fetched machine.registers.pc machine.nextWord machine.nextInstruction

/-- The report of the next fetch, unless that meets a fault. -/
def fetchReport? (machine : Machine τ δ ρ β) : Option LogRecord :=
  let pc := machine.registers.pc
  (machine.memory.fetch pc).toOption.map fun op => .fetched pc op (.decode op)

/-- Whether this is what a machine remembers of waiting: no key is latched, or this one is, and
the next fetch is that of the instruction that waits for it. -/
def Awaits (machine : Machine τ δ ρ β) : Option KeyWait → Prop
  | none => machine.awaitedKey = none
  | some wait => machine.awaitedKey = some wait.key ∧ machine.fetchReport? = some wait.report

variable {machine : Machine τ δ ρ β} {waiting : Option KeyWait}

theorem fetchReport?_of_fault {fault : Fault} (refused : machine.fetchFault? = some fault) :
    machine.fetchReport? = none := by
  rw [fetchReport?, Memory.fetch_of_some refused]
  rfl

theorem fetchReport?_of_inside (inside : machine.fetchFault? = none) :
    machine.fetchReport? = some machine.report := by
  rw [fetchReport?, Memory.fetch_of_none inside]
  rfl

/-- Behind a fetch the report is the last that was written. -/
theorem journal_fetched (machine : Machine τ δ ρ β) :
    machine.fetched.journal.toList = machine.journal.toList ++ [machine.report] :=
  Array.toList_push

/-- Surroundings do not matter to what will be fetched, nor to what is latched. -/
theorem Awaits.within (awaits : machine.Awaits waiting) (around : Surroundings τ δ β) :
    (machine.within around).Awaits waiting := by
  cases waiting <;> exact awaits

theorem Awaits.report_eq {wait : KeyWait} (awaits : machine.Awaits (some wait)) :
    machine.report = wait.report := by
  obtain ⟨-, reported⟩ := awaits
  cases refused : machine.fetchFault? with
  | some fault => simp [fetchReport?_of_fault refused] at reported
  | none =>
      rw [fetchReport?_of_inside refused] at reported
      exact Option.some.inj reported

/-- The instruction that waits is the next one. -/
theorem Awaits.nextInstruction_eq {wait : KeyWait} (awaits : machine.Awaits (some wait)) :
    machine.nextInstruction = .awaitKey wait.x :=
  (LogRecord.fetched.inj awaits.report_eq).2.2

/-! ## From one machine to another -/

/-- What is written between two machines. Reports of fetching are given by a list of their own. -/
structure Tells (before : Machine τ δ ρ β) (waiting : Option KeyWait)
    (fetches told : List LogRecord) (after : Machine τ δ ρ β) (waiting' : Option KeyWait) :
    Prop where
  journal_eq : after.journal.toList = before.journal.toList ++ told
  fetches_eq : told.filter (·.severity = .trace) = fetches
  awaits : after.Awaits waiting'
  orderly : ∀ rest, Orderly waiting' rest → Orderly waiting (told ++ rest)

namespace Tells

variable {before between after : Machine τ δ ρ β} {waiting' waiting'' : Option KeyWait}
variable {fetches fetches' told told' : List LogRecord}

/-- Where the journal is the same, nothing was written. -/
theorem nil (awaits : after.Awaits waiting) (same : after.journal = before.journal) :
    before.Tells waiting [] [] after waiting where
  journal_eq := by simp [same]
  fetches_eq := rfl
  awaits := awaits
  orderly := fun _ behind => behind

theorem trans (first : before.Tells waiting fetches told between waiting')
    (second : between.Tells waiting' fetches' told' after waiting'') :
    before.Tells waiting (fetches ++ fetches') (told ++ told') after waiting'' where
  journal_eq := by simp [second.journal_eq, first.journal_eq]
  fetches_eq := by simp [second.fetches_eq, first.fetches_eq]
  awaits := second.awaits
  orderly := fun rest behind => by
    rw [List.append_assoc]
    exact first.orderly _ (second.orderly rest behind)

end Tells

/-! ## Ticks -/

section Tick

variable [Display δ] [ScreenDisplay δ]

/-- While a key is latched, the instruction is reported, and the key once it has come up. -/
theorem tells_of_latched {wait : KeyWait} (awaits : machine.Awaits (some wait)) :
    ∃ told waiting', machine.Tells (some wait) [wait.report] told
      (machine.fetched.await wait.x) waiting' := by
  have report_eq := awaits.report_eq
  obtain ⟨latched, reported⟩ := awaits
  have remembered : machine.fetched.awaitedKey = some wait.key := latched
  simp only [await, remembered]
  by_cases down : (ScreenDisplay.keypad machine.fetched.display).holds wait.key = true
  · refine ⟨[wait.report], some wait, ?_, rfl, ?_, fun rest => .waited⟩
    · simp [down, repeatInstruction_fetched, journal_fetched, report_eq]
    · rw [if_pos down, repeatInstruction_fetched]
      exact ⟨latched, reported⟩
  · refine ⟨[wait.report, .keyResolved wait.key], none, ?_, rfl, ?_, fun rest => .resolved⟩
    · simp [down, unlatch, record, journal_fetched, report_eq]
    · simp [down, unlatch, record, Awaits]

/-- While none is, an instruction that waits is reported, and the key if one has gone down. -/
theorem tells_of_unlatched {x : UInt8} (unlatched : machine.awaitedKey = none)
    (inside : machine.fetchFault? = none) (waits : machine.nextInstruction = .awaitKey x) :
    ∃ told waiting', machine.Tells none [machine.report] told
      (machine.fetched.await x) waiting' := by
  have forgotten : machine.fetched.awaitedKey = none := unlatched
  simp only [await, forgotten]
  cases found : machine.fetched.firstDown? with
  | none =>
      have known : ∀ word, machine.nextInstruction ≠ .unknown word := by simp [waits]
      refine ⟨[machine.report], none, ?_, rfl, unlatched, fun rest => .fetched known⟩
      simp [repeatInstruction_fetched, journal_fetched]
  | some key =>
      let wait : KeyWait := ⟨key, machine.registers.pc, machine.nextWord, x⟩
      have report_eq : machine.report = wait.report := by
        rw [report, waits]
        rfl
      rw [report_eq]
      refine ⟨[wait.report, .keyLatched key], some wait, ?_, rfl, ?_, fun rest => .latched⟩
      · simp [latch_fetched, journal_fetched, report_eq]
      · simp only [latch_fetched]
        exact ⟨rfl, (fetchReport?_of_inside inside).trans (congrArg some report_eq)⟩

variable [Seconds τ] [RandomSource ρ]

/-- An instruction that does not wait and means something has nothing else to report. -/
theorem journal_effect {instruction : Instruction} (known : ∀ word, instruction ≠ .unknown word)
    (other : ∀ x, instruction ≠ .awaitKey x) :
    (machine.effect instruction).journal = machine.journal := by
  cases instruction with
  | awaitKey x => exact absurd rfl (other x)
  | unknown word => exact absurd rfl (known word)
  | _ => rfl

/-- A word that means nothing is warned about, with the address that it was fetched from. -/
theorem tells_of_unknown {word : Opcode} (unlatched : machine.awaitedKey = none)
    (meaningless : machine.nextInstruction = .unknown word) :
    machine.Tells none [machine.report] [machine.report, .unknownWord word machine.registers.pc]
      (machine.fetched.effect (.unknown word)) none := by
  have same : word = machine.nextWord := Instruction.eq_of_decode_unknown meaningless
  have back : machine.fetched.registers.pc - 2 = machine.registers.pc :=
    UInt16.add_sub_cancel _ _
  refine ⟨?_, rfl, unlatched, ?_⟩
  · simp [effect, record, journal_fetched, back]
  · intro rest behind
    rw [report, meaningless, same]
    exact .unknown behind

/-- Any other instruction is only reported, whether it stops or has its effect. -/
theorem tells_of_known (unlatched : machine.awaitedKey = none)
    (inside : machine.fetchFault? = none)
    (known : ∀ word, machine.nextInstruction ≠ .unknown word)
    (other : ∀ x, machine.nextInstruction ≠ .awaitKey x) :
    machine.Tells none [machine.report] [machine.report] machine.tick.1 none := by
  rw [tick_of_inside inside]
  cases machine.stop? machine.nextInstruction with
  | some stop => exact ⟨machine.journal_fetched, rfl, unlatched, fun rest => .fetched known⟩
  | none =>
      refine ⟨?_, rfl, (effect_awaitedKey other).trans unlatched, fun rest => .fetched known⟩
      rw [journal_effect known other]
      exact machine.journal_fetched

/-- A tick reports what it fetches, and what else it writes is in order. -/
theorem exists_tells_tick (consistent : machine.Consistent) (awaits : machine.Awaits waiting) :
    ∃ told waiting',
      machine.Tells waiting machine.fetchReport?.toList told machine.tick.1 waiting' := by
  cases refused : machine.fetchFault? with
  | some fault =>
      rw [fetchReport?_of_fault refused, tick_of_fetchFault refused]
      exact ⟨[], waiting, .nil awaits rfl⟩
  | none =>
      have inside := fetchFault?_eq_none_iff.mp refused
      cases waiting with
      | some wait =>
          have waits := awaits.nextInstruction_eq
          rw [awaits.2, tick_of_awaitKey consistent.latch_lt inside waits]
          exact tells_of_latched awaits
      | none =>
          rw [fetchReport?_of_inside refused]
          by_cases waiting : ∃ x, machine.nextInstruction = .awaitKey x
          · obtain ⟨x, waits⟩ := waiting
            rw [tick_of_awaitKey consistent.latch_lt inside waits]
            exact tells_of_unlatched awaits refused waits
          by_cases meaningless : ∃ word, machine.nextInstruction = .unknown word
          · obtain ⟨word, next⟩ := meaningless
            rw [tick_of_inside refused, next]
            exact ⟨_, none, tells_of_unknown awaits next⟩
          · exact ⟨_, none, tells_of_known awaits refused (not_exists.mp meaningless)
              (not_exists.mp waiting)⟩

end Tick

/-! ## Runs -/

/-- Keys are not reported, and a latch does not depend on them. -/
theorem tells_takeKeys [Display δ] [ScreenDisplay δ] (awaits : machine.Awaits waiting)
    (keys : Except Breach Keypad) :
    machine.Tells waiting [] [] (machine.takeKeys keys).1 waiting := by
  apply Tells.nil
  · rw [takeKeys_eq_within]
    exact awaits.within _
  · cases keys <;> rfl

/-- Loading a program is noted, if it fits. -/
theorem journal_loadRom (machine : Machine τ δ ρ β) (rom : List UInt8) :
    (machine.loadRom rom).1.journal = machine.journal ∨
      (machine.loadRom rom).1.journal = machine.journal.push (.romLoaded rom.length) := by
  unfold loadRom
  cases machine.memory.loadRom rom with
  | ok memory => exact .inr rfl
  | error error => exact .inl rfl

section Runs

variable [Seconds τ] [Display δ] [ScreenDisplay δ] [RandomSource ρ] [Buzzer β]

/-- What an event fetches: only a tick does, unless its fetch meets a fault. -/
def fetches (machine : Machine τ δ ρ β) : Event τ → List LogRecord
  | .tick => machine.fetchReport?.toList
  | _ => []

/-- What the ticks of a run fetch, one after the other. -/
def allFetches (machine : Machine τ δ ρ β) : List (Event τ) → List LogRecord
  | [] => []
  | event :: rest => machine.fetches event ++ (machine.respond event).1.allFetches rest

theorem exists_tells_respond (consistent : machine.Consistent) (awaits : machine.Awaits waiting)
    {event : Event τ} (ticks : event.IsTickOrKey) :
    ∃ told waiting',
      machine.Tells waiting (machine.fetches event) told (machine.respond event).1 waiting' := by
  cases event with
  | load rom => cases ticks
  | cycle elapsed => cases ticks
  | tick => exact exists_tells_tick consistent awaits
  | press key | release key | update batch => exact ⟨[], waiting, tells_takeKeys awaits _⟩

/-- A run of ticks and keys reports what it fetches, and what else it writes is in order. -/
theorem exists_tells_run (consistent : machine.Consistent) (awaits : machine.Awaits waiting)
    {events : List (Event τ)} (ticks : ∀ event ∈ events, event.IsTickOrKey) :
    ∃ told waiting', machine.Tells waiting (machine.allFetches events) told (machine.run events).1
      waiting' := by
  induction events generalizing machine waiting with
  | nil => exact ⟨[], waiting, .nil awaits rfl⟩
  | cons event rest ih =>
      obtain ⟨told, between, first⟩ :=
        exists_tells_respond consistent awaits (ticks event List.mem_cons_self)
      obtain ⟨more, final, second⟩ := ih (consistent.respond event) first.awaits
        fun other listed => ticks other (List.mem_cons_of_mem _ listed)
      exact ⟨told ++ more, final, first.trans second⟩

/-- Loading programs writes about nothing else, and latches no key. -/
theorem awaits_loads (awaits : machine.Awaits none) (programs : List (List UInt8)) :
    (machine.run (programs.map .load)).1.Awaits none ∧
      ∀ record ∈ (machine.run (programs.map .load)).1.journal,
        record ∈ machine.journal ∨ ∃ rom ∈ programs, record = .romLoaded rom.length := by
  induction programs generalizing machine with
  | nil => exact ⟨awaits, fun record listed => .inl listed⟩
  | cons rom rest ih =>
      have unlatched : (machine.loadRom rom).1.Awaits none := by
        obtain ⟨memory, journal, stored, -⟩ := machine.loadRom_eq rom
        rwa [stored]
      obtain ⟨stays, written⟩ := ih unlatched
      refine ⟨stays, ?_⟩
      intro record listed
      rcases written record listed with before | ⟨other, behind, rfl⟩
      · rcases machine.journal_loadRom rom with kept | noted
        · exact .inl (kept ▸ before)
        · rw [noted] at before
          rcases Array.mem_push.mp before with old | rfl
          · exact .inl old
          · exact .inr ⟨rom, List.mem_cons_self, rfl⟩
      · exact .inr ⟨other, List.mem_cons_of_mem _ behind, rfl⟩

/-- Let a new machine load any programs, whether they fit or not, and then only tick, while keys
go down and up. The records of fetching are those of the words that were there to be fetched, one
for each tick that could fetch, with their addresses. Each warning stands right behind the record
of a word that means nothing, names that word and its address, and stands behind each of these.
Notes are taken in turn that a key was latched and that the same key was resolved, and between
the two only one instruction was fetched, the one that the former is about. -/
theorem journal_of_ticks {config : Config} {display : δ} {random : ρ} {buzzer : β}
    {unloaded : Machine τ δ ρ β} {events : List (Event τ)} (programs : List (List UInt8))
    (built : start config display random buzzer = .ok unloaded)
    (ticks : ∀ event ∈ events, event.IsTickOrKey) :
    let loaded := (unloaded.run (programs.map .load)).1
    (∀ record ∈ loaded.journal, ∃ rom ∈ programs, record = .romLoaded rom.length) ∧
      ∃ records,
        (loaded.run events).1.journal.toList = loaded.journal.toList ++ records ∧
        records.filter (·.severity = .trace) = loaded.allFetches events ∧
        WarnsOfUnknown records ∧ Alternates (notes records) ∧ WaitsInPlace records := by
  intro loaded
  have consistent : loaded.Consistent := ((Reachable.start built).run _).consistent
  have new := (eq_fresh_of_start built).2
  have unlatched : unloaded.Awaits none := congrArg Machine.awaitedKey new
  obtain ⟨awaits, noted⟩ := awaits_loads unlatched programs
  obtain ⟨records, waiting, told⟩ := exists_tells_run consistent awaits ticks
  have orderly : Orderly none records := by
    have closed := told.orderly [] .nil
    rwa [List.append_nil] at closed
  refine ⟨?_, records, told.journal_eq, told.fetches_eq, orderly.warnsOfUnknown,
    orderly.alternates, orderly.waitsInPlace⟩
  intro record listed
  rcases noted record listed with old | loads
  · rw [new] at old
    exact absurd old (Array.not_mem_empty record)
  · exact loads

/-- A key goes down and comes up while the first instruction of a program waits for one. Behind
it there is a word that means nothing, and then the end of the memory. -/
theorem journal_of_pressed_key :
    ∃ (machine : Machine Rat HeadlessDisplay ByteCycle BuzzerTape) (events : List (Event Rat))
      (records : List LogRecord),
      (machine.run events).1.journal.toList = .romLoaded 4 :: records ∧
        records.filter (·.severity = .trace) =
          [.fetched 0x200 ⟨0xF30A⟩ (.awaitKey 3), .fetched 0x200 ⟨0xF30A⟩ (.awaitKey 3),
            .fetched 0x200 ⟨0xF30A⟩ (.awaitKey 3), .fetched 0x202 ⟨0⟩ (.unknown ⟨0⟩)] ∧
        notes records = [.keyLatched 7, .keyResolved 7] ∧
        WarnsOfUnknown records ∧ Alternates (notes records) ∧ WaitsInPlace records := by
  let unloaded : Machine Rat HeadlessDisplay ByteCycle BuzzerTape :=
    fresh { memorySize := 516 } {} (.ofBytes 0 []) {}
  let programs : List (List UInt8) := [[0xF3, 0x0A, 0, 0]]
  let events : List (Event Rat) := [.press 7, .tick, .tick, .release 7, .tick, .tick, .tick]
  have built : start { memorySize := 516 } {} (.ofBytes 0 []) {} = .ok unloaded :=
    start_eq_fresh _ _ _ _ (by decide) (by decide)
  have ticks : ∀ event ∈ events, event.IsTickOrKey := by simp [events, Event.IsTickOrKey]
  obtain ⟨-, records, written, fetched, warns, alternates, waits⟩ :=
    journal_of_ticks programs built ticks
  have begins : (unloaded.run (programs.map .load)).1.journal.toList = [.romLoaded 4] := by
    decide +kernel
  have fetches : (unloaded.run (programs.map .load)).1.allFetches events =
      [.fetched 0x200 ⟨0xF30A⟩ (.awaitKey 3), .fetched 0x200 ⟨0xF30A⟩ (.awaitKey 3),
        .fetched 0x200 ⟨0xF30A⟩ (.awaitKey 3), .fetched 0x202 ⟨0⟩ (.unknown ⟨0⟩)] := by
    decide +kernel
  have noted : notes ((unloaded.run (programs.map .load)).1.run events).1.journal.toList =
      [.romLoaded 4, .keyLatched 7, .keyResolved 7] := by decide +kernel
  have listed : ((unloaded.run (programs.map .load)).1.run events).1.journal.toList =
      .romLoaded 4 :: records := by
    rw [written, begins, List.singleton_append]
  have notes_eq := (congrArg notes listed).symm.trans noted
  exact ⟨_, events, records, listed, fetched.trans fetches, (List.cons.inj notes_eq).2,
    warns, alternates, waits⟩

end Runs

end Machine

end Chip8
