/-
# How a halt is reported

A session whose machine meets a fault writes one last record, with the program counter as the
fault has left it. Where the fault was met makes a difference. If a word could not be fetched,
the counter is still at that word, and the record names it. If the word was fetched and its
instruction met the fault, the counter is already behind it, and the record names the next
address. The record of the fetch, right before it, has the address of the instruction.

So the report of a halt and the warning of a word that means nothing do not read alike: the
warning goes back to the word, and the report does not.
-/

import Chip8.Proofs.Machine.Atomicity
import Chip8.Proofs.Machine.Journal
import Chip8.Proofs.Session.Loop

namespace Chip8

namespace Machine

variable {τ δ ρ β : Type} {machine : Machine τ δ ρ β}

/-! ## Cycles -/

/-- An attempt to fetch a word is reported if it succeeded. -/
theorem journal_attempted (machine : Machine τ δ ρ β) :
    machine.attempted.journal.toList = machine.journal.toList ++ machine.fetchReport?.toList := by
  unfold attempted
  cases refused : machine.fetchFault? with
  | some cause =>
      rw [if_neg (Option.some_ne_none cause), fetchReport?_of_fault refused]
      exact (List.append_nil _).symm
  | none =>
      rw [if_pos rfl, fetchReport?_of_inside refused]
      exact machine.journal_fetched

/-- What a fetch meets is what its tick answers. -/
theorem tick_of_fetch_error [Seconds τ] [Display δ] [RandomSource ρ] {cause : Fault}
    (refused : machine.memory.fetch machine.registers.pc = .error cause) :
    machine.tick.2 = .error (.fault cause) := by
  rw [tick, fetchDecode, refused]

variable [Seconds τ] [Display δ] [RandomSource ρ] [Buzzer β] {elapsed : τ} {fault : Fault}

/-- Behind a cycle that met a fault there are two cases. The fault is that of the fetch, nothing
was fetched, and the program counter is where it was. Or a word was fetched, this is the last
thing that was reported, and the program counter is behind the word. -/
theorem cycle_fault_cases (stopped : (machine.cycle elapsed).2 = .error (.fault fault)) :
    let pc := machine.registers.pc
    let after := (machine.cycle elapsed).1
    let reported := (machine.passTime elapsed).journal.toList
    (machine.memory.fetch pc = .error fault ∧ after.registers.pc = pc ∧
        after.journal.toList = reported) ∨
      ∃ op, machine.memory.fetch pc = .ok op ∧ after.registers.pc = pc + 2 ∧
        after.journal.toList = reported ++ [.fetched pc op (.decode op)] := by
  intro pc after reported
  obtain ⟨ticked, -⟩ := tick_of_cycle_fault stopped
  have after_eq : after = (machine.clocked elapsed).attempted := cycle_of_fault stopped
  have pc_eq := (machine.clocked elapsed).intact_attempted.pc_eq
  have journal_eq : after.journal.toList = reported ++ machine.fetchReport?.toList := by
    rw [after_eq]
    exact (machine.clocked elapsed).journal_attempted
  rw [← after_eq] at pc_eq
  -- The clock that a cycle has read does not matter to its fetch.
  have fetch_eq : (machine.clocked elapsed).memory.fetch (machine.clocked elapsed).registers.pc =
      machine.memory.fetch pc := rfl
  rw [fetch_eq] at pc_eq
  cases read : machine.memory.fetch pc with
  | error cause =>
      have met : (machine.clocked elapsed).tick.2 = .error (.fault cause) :=
        tick_of_fetch_error read
      obtain rfl : cause = fault := by simpa [met] using ticked
      rw [read] at pc_eq
      refine .inl ⟨rfl, pc_eq, ?_⟩
      simpa [fetchReport?, pc, read, Except.toOption] using journal_eq
  | ok op =>
      rw [read] at pc_eq
      refine .inr ⟨op, rfl, pc_eq, ?_⟩
      simpa [fetchReport?, pc, read, Except.toOption] using journal_eq

end Machine

namespace Session

variable {τ η ρ σ : Type} [Seconds τ] [Host η] [LoopClock η] [RandomSource ρ] [AudioStream σ]

/-! ## The last turn of a loop -/

theorem Performs.split {first second : List LoopCall} {machine final : Runner τ η ρ σ}
    (performs : Performs machine (first ++ second) final) :
    ∃ between, Performs machine first between ∧ Performs between second final := by
  induction first generalizing machine with
  | nil => exact ⟨machine, .nil machine, performs⟩
  | cons call rest ih =>
      cases performs with
      | check asked more =>
          obtain ⟨between, before, behind⟩ := ih more
          exact ⟨between, .check asked before, behind⟩
      | read shown more =>
          obtain ⟨between, before, behind⟩ := ih more
          exact ⟨between, .read shown before, behind⟩
      | cycle cycled more =>
          obtain ⟨between, before, behind⟩ := ih more
          exact ⟨between, .cycle cycled before, behind⟩

/-- The calls of the last turn come last. -/
theorem lapCalls_concat (previous : Nat) (laps : List Lap) (last : Lap) :
    ∃ nanoseconds, lapCalls previous (laps ++ [last]) =
      (lapCalls previous laps ++ [.check false, .read last.now]) ++
        [.cycle nanoseconds last.answer] := by
  induction laps generalizing previous with
  | nil => exact ⟨last.now - previous, rfl⟩
  | cons lap rest ih =>
      obtain ⟨nanoseconds, calls_eq⟩ := ih lap.now
      refine ⟨nanoseconds, ?_⟩
      rw [List.cons_append, lapCalls, calls_eq]
      rfl

/-- A loop that fails does so in the cycle of its last turn, and then reports the fault. -/
theorem loop_of_fault {machine : Runner τ η ρ σ} (consistent : machine.Consistent)
    {previous bound : Nat} {fault : Fault}
    (failed : (loop machine previous bound).2 = .failed (.machine fault)) :
    ∃ laps now before nanoseconds,
      Performs machine (lapCalls previous laps ++ [.check false, .read now]) before ∧
        (before.cycle (Seconds.ofNanoseconds nanoseconds)).2 = .error (.fault fault) ∧
        (loop machine previous bound).1 =
          let after := (before.cycle (Seconds.ofNanoseconds nanoseconds)).1
          after.record (.halted after.registers.pc fault) := by
  obtain ⟨laps, closing, final, performs, ends⟩ := loop_performs consistent previous bound
  generalize loop machine previous bound = result at ends failed ⊢
  cases ends with
  | stopped ran => cases failed
  | brokenOff ran used => cases failed
  | @halted laps ran now met =>
      obtain rfl : met = fault := SessionError.machine.inj (Ending.failed.inj failed)
      obtain ⟨nanoseconds, calls_eq⟩ :=
        lapCalls_concat previous laps ⟨now, .error (.fault met)⟩
      rw [List.append_nil, calls_eq] at performs
      obtain ⟨before, reached, behind⟩ := performs.split
      cases behind with
      | cycle cycled more =>
          cases more
          exact ⟨laps, now, before, nanoseconds, reached, congrArg Prod.snd cycled, by rw [cycled]⟩

/-! ## Sessions -/

/-- A session whose machine met a fault had read a program that fits, and had a window. -/
theorem loaded_of_fault {environment : Environment η ρ σ} {arguments : CommandLine.Arguments}
    {bound : Nat} {fault : Fault}
    (failed : (run τ environment arguments bound).ending = .failed (.machine fault)) :
    ∃ rom host, readRom environment.readFile arguments.rom = .ok rom ∧
      environment.openWindow ⟨title arguments.rom, arguments.scale⟩ = .ok host ∧
      rom.length ≤ defaultCapacity - romStart := by
  cases read : readRom environment.readFile arguments.rom with
  | error cause => simp [run, run.withoutWindow, read] at failed
  | ok rom =>
      cases opened : environment.openWindow ⟨title arguments.rom, arguments.scale⟩ with
      | error cause => simp [run, run.withoutWindow, read, opened] at failed
      | ok host =>
          refine ⟨rom, host, rfl, rfl, ?_⟩
          by_contra long
          -- A program that is too long is a failure of its own, ahead of the loop.
          have refused : (blank environment arguments host : Runner τ η ρ σ).loadRom rom = _ :=
            Machine.loadRom_of_long (Nat.lt_of_not_le long)
          rw [run_eq_play read opened, play, refused] at failed
          cases failed

/-- A session that fails with a fault had read its program and opened its window. It met the fault
in the cycle of its last turn, and its last record says so. Either the machine could not fetch the
word at its program counter, nothing more was fetched, and the record names the program counter.
Or the word was fetched, which is the record before the last one, its instruction met the fault,
and the last record names the address behind the word. So it names the address of the last fetch
if, and only if, that fetch met the fault. -/
theorem halt_names_fetch_or_next_address {environment : Environment η ρ σ}
    {arguments : CommandLine.Arguments} {bound : Nat} {fault : Fault}
    (failed : (run τ environment arguments bound).ending = .failed (.machine fault)) :
    ∃ rom host start laps now nanoseconds, ∃ machine : Runner τ η ρ σ,
      let pc := machine.registers.pc
      let elapsed := Seconds.ofNanoseconds nanoseconds
      let journal := (run τ environment arguments bound).journal
      let reported := (machine.passTime elapsed).journal.toList
      readRom environment.readFile arguments.rom = .ok rom ∧
        environment.openWindow ⟨title arguments.rom, arguments.scale⟩ = .ok host ∧
        Performs (prepared environment arguments rom host)
          (.read start :: (lapCalls start laps ++ [.check false, .read now])) machine ∧
        (machine.cycle elapsed).2 = .error (.fault fault) ∧
        ((machine.memory.fetch pc = .error fault ∧ journal = reported ++ [.halted pc fault]) ∨
          ∃ op, machine.memory.fetch pc = .ok op ∧
            journal = reported ++ [.fetched pc op (.decode op), .halted (pc + 2) fault]) ∧
        (journal.getLast? = some (.halted pc fault) ↔ machine.memory.fetch pc = .error fault) := by
  obtain ⟨rom, host, read, opened, fits⟩ := loaded_of_fault failed
  have consistent : (prepared environment arguments rom host : Runner τ η ρ σ).Consistent :=
    consistent_prepared environment arguments rom host
  have looped : run τ environment arguments bound = _ := run_eq_summary read opened fits bound
  rcases shown : readClock (prepared environment arguments rom host : Runner τ η ρ σ) with
    ⟨start, ready⟩
  rw [shown] at looped
  rw [looped] at failed ⊢
  obtain ⟨laps, now, machine, nanoseconds, performs, stopped, halted⟩ :=
    loop_of_fault (consistent_of_readClock consistent shown) failed
  refine ⟨rom, host, start, laps, now, nanoseconds, machine, ?_⟩
  intro pc elapsed journal reported
  have journal_eq : journal = (machine.cycle elapsed).1.journal.toList ++
      [.halted (machine.cycle elapsed).1.registers.pc fault] := by
    change (loop ready start bound).1.journal.toList = _
    rw [halted]
    exact Array.toList_push
  refine ⟨read, opened, .read shown performs, stopped, ?_⟩
  rcases Machine.cycle_fault_cases stopped with
    ⟨refused, pc_eq, written⟩ | ⟨op, fetched, pc_eq, written⟩
  · rw [pc_eq, written] at journal_eq
    exact ⟨.inl ⟨refused, journal_eq⟩, iff_of_true (by simp [journal_eq, pc]) refused⟩
  · rw [pc_eq, written, List.append_assoc] at journal_eq
    refine ⟨.inr ⟨op, fetched, journal_eq⟩, iff_of_false ?_ ?_⟩
    · simp [journal_eq, pc]
    · simp [fetched, pc]

/-- A program that jumps to the last byte of the memory, where there is no whole word. The report
names the address at which the fetch was attempted. -/
theorem halt_names_fetch_of_last_byte :
    ∃ (environment : Environment ScriptedHost ByteCycle ScriptedStream)
      (arguments : CommandLine.Arguments) (host : ScriptedHost) (calls : List LoopCall)
      (machine : Runner Rat ScriptedHost ByteCycle ScriptedStream),
      readRom environment.readFile arguments.rom = .ok [0x1F, 0xFF] ∧
        environment.openWindow ⟨title arguments.rom, arguments.scale⟩ = .ok host ∧
        Performs (prepared environment arguments [0x1F, 0xFF] host) calls machine ∧
        (run Rat environment arguments 3).ending =
          .failed (.machine (.outOfBounds 0xFFF 2 0x1000)) ∧
        machine.registers.pc = 0xFFF ∧
        machine.memory.fetch 0xFFF = .error (.outOfBounds 0xFFF 2 0x1000) ∧
        (run Rat environment arguments 3).journal.getLast? =
          some (.halted 0xFFF (.outOfBounds 0xFFF 2 0x1000)) := by
  let turns : List Turn := [{ nanoseconds := 2000000 }, { nanoseconds := 2000000 }]
  let environment : Environment ScriptedHost ByteCycle ScriptedStream := {
    readFile := fun _ => .ok [0x1F, 0xFF]
    openWindow := fun window => .ok { window, turns }
    random := .ofBytes 0 []
    device := none }
  let arguments : CommandLine.Arguments := { rom := "end.ch8", mute := true }
  obtain ⟨failed, written⟩ : (run Rat environment arguments 3).ending =
        .failed (.machine (.outOfBounds 0xFFF 2 0x1000)) ∧
      (run Rat environment arguments 3).journal =
        [.windowOpened 60, .romLoaded 2, .fetched 0x200 ⟨0x1FFF⟩ (.jump 0xFFF)] ++
          [.halted 0xFFF (.outOfBounds 0xFFF 2 0x1000)] := by
    decide +kernel
  have loaded : readRom environment.readFile arguments.rom = .ok [0x1F, 0xFF] := rfl
  obtain ⟨rom, host, start, laps, now, nanoseconds, machine, read, opened, performs, -, halted,
    -⟩ := halt_names_fetch_or_next_address failed
  obtain rfl : [0x1F, 0xFF] = rom := Except.ok.inj (loaded.symm.trans read)
  rw [written] at halted
  rcases halted with ⟨refused, same⟩ | ⟨op, read, same⟩
  · have last := (List.append_inj' same rfl).2
    have pc_eq : machine.registers.pc = 0xFFF := by simpa [eq_comm] using last
    rw [pc_eq] at refused
    refine ⟨environment, arguments, host, _, machine, loaded, opened, performs, failed, pc_eq,
      refused, ?_⟩
    rw [written]
    rfl
  · -- A word behind which the machine had stopped would have to be the jump.
    have backwards := congrArg List.reverse same
    obtain ⟨behind, ⟨jumped, -⟩, -⟩ : 0xFFF = machine.registers.pc + 2 ∧
        (0x200 = machine.registers.pc ∧ _) ∧ _ := by simpa using backwards
    rw [← jumped] at behind
    exact absurd behind (by decide)

/-- A program whose first instruction returns from a subroutine that was never entered. It was
fetched at one address and is reported with another. -/
theorem halt_of_return_names_next_address :
    ∃ (environment : Environment ScriptedHost ByteCycle ScriptedStream)
      (arguments : CommandLine.Arguments),
      readRom environment.readFile arguments.rom = .ok [0x00, 0xEE] ∧
        (run Rat environment arguments 3).ending = .failed (.machine .stackUnderflow) ∧
        (run Rat environment arguments 3).journal =
          [.windowOpened 60, .romLoaded 2, .fetched 0x200 ⟨0x00EE⟩ .ret,
            .halted 0x202 .stackUnderflow] := by
  let turns : List Turn := [{ nanoseconds := 2000000 }]
  let environment : Environment ScriptedHost ByteCycle ScriptedStream := {
    readFile := fun _ => .ok [0x00, 0xEE]
    openWindow := fun window => .ok { window, turns }
    random := .ofBytes 0 []
    device := none }
  let arguments : CommandLine.Arguments := { rom := "return.ch8", mute := true }
  refine ⟨environment, arguments, rfl, ?_⟩
  decide +kernel

end Session

end Chip8
