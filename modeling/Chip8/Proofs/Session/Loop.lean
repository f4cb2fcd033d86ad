/-
# The loop of a session

A session hands its machine to a loop, and the loop makes three kinds of calls: it asks whether
the user wants to stop, it reads its clock, and it lets time pass for the machine. `Performs`
says which calls are made one after the other and what they answer, without saying when. The
loop makes them in turns. In each it asks, reads, and passes on the time since the reading
before, the first of which was made ahead of the loop. So no time is lost between two turns,
whatever happened in between.

A loop ends at the first question that is answered yes, at the first cycle that meets a fault,
or when its number of turns is used up. There is no fourth way, because the machine of a session
breaks no contract.
-/

import Chip8.Proofs.Machine.Safety
import Chip8.Session
import Chip8.Session.Script
import Mathlib.Algebra.GroupWithZero.Nat
import Mathlib.Data.List.Chain

namespace Chip8.Session

variable {τ η ρ σ : Type} [Seconds τ] [Host η] [LoopClock η] [RandomSource ρ] [AudioStream σ]

/-! ## Calls -/

/-- A call that the loop makes, with the answer. -/
inductive LoopCall where
  /-- Whether the user wants to stop. -/
  | check (stop : Bool)
  /-- What the clock of the loop shows. -/
  | read (now : Nat)
  /-- To let so many nanoseconds pass. -/
  | cycle (nanoseconds : Nat) (answer : Except Stop Bool)

/-- The time that passes with a call, if it is there to let time pass. -/
def LoopCall.nanoseconds? : LoopCall → Option Nat
  | .cycle nanoseconds _ => some nanoseconds
  | .check _ | .read _ => none

/-- A machine gives the answers to some calls, of which the first comes first, and another one is
behind them. -/
inductive Performs : Runner τ η ρ σ → List LoopCall → Runner τ η ρ σ → Prop where
  | nil (machine : Runner τ η ρ σ) : Performs machine [] machine
  | check {machine final : Runner τ η ρ σ} {stop : Bool} {rest : List LoopCall}
      (asked : machine.shouldTerminate = stop) (more : Performs machine rest final) :
      Performs machine (.check stop :: rest) final
  | read {machine next final : Runner τ η ρ σ} {now : Nat} {rest : List LoopCall}
      (shown : readClock machine = (now, next)) (more : Performs next rest final) :
      Performs machine (.read now :: rest) final
  | cycle {machine next final : Runner τ η ρ σ} {nanoseconds : Nat} {answer : Except Stop Bool}
      {rest : List LoopCall}
      (cycled : machine.cycle (Seconds.ofNanoseconds nanoseconds) = (next, answer))
      (more : Performs next rest final) :
      Performs machine (.cycle nanoseconds answer :: rest) final

/-! ## Turns -/

/-- What one turn of the loop meets. -/
structure Lap where
  /-- What the clock shows. -/
  now : Nat
  /-- What the cycle answers. -/
  answer : Except Stop Bool

/-- The calls of some turns behind a reading of the clock. -/
def lapCalls (previous : Nat) : List Lap → List LoopCall
  | [] => []
  | lap :: rest =>
      .check false :: .read lap.now :: .cycle (lap.now - previous) lap.answer ::
        lapCalls lap.now rest

/-- The time that passes for the machine in some turns behind a reading of the clock. -/
def timePassed (previous : Nat) (laps : List Lap) : Nat :=
  ((lapCalls previous laps).filterMap LoopCall.nanoseconds?).sum

/-- No time is lost and none is counted twice, if the clock does not run backwards. -/
theorem timePassed_concat {previous : Nat} {laps : List Lap} {last : Lap}
    (forward : (previous :: (laps ++ [last]).map Lap.now).IsChain (· ≤ ·)) :
    previous + timePassed previous (laps ++ [last]) = last.now := by
  induction laps generalizing previous with
  | nil =>
      have later : previous ≤ last.now := List.isChain_cons_cons.mp forward |>.1
      change previous + (last.now - previous + 0) = last.now
      omega
  | cons lap rest ih =>
      obtain ⟨later, rest_forward⟩ := List.isChain_cons_cons.mp forward
      have step : timePassed previous (lap :: rest ++ [last]) =
          (lap.now - previous) + timePassed lap.now (rest ++ [last]) := rfl
      have total := ih rest_forward
      omega

/-- How a loop of so many turns ends: what it met, the calls it makes at last, the machine and
the outcome that it gives. -/
inductive Ends (bound : Nat) (final : Runner τ η ρ σ) :
    List Lap → List LoopCall → Runner τ η ρ σ × Ending → Prop where
  /-- The user wants to stop. -/
  | stopped {laps : List Lap} (ran : ∀ lap ∈ laps, ∃ executed, lap.answer = .ok executed) :
      Ends bound final laps [.check true] (final, .finished)
  /-- The last cycle met a fault. -/
  | halted {laps : List Lap} (ran : ∀ lap ∈ laps, ∃ executed, lap.answer = .ok executed)
      (now : Nat) (fault : Fault) :
      Ends bound final (laps ++ [⟨now, .error (.fault fault)⟩]) []
        (final.record (.halted final.registers.pc fault), .failed (.machine fault))
  /-- There are no more turns. -/
  | brokenOff {laps : List Lap} (ran : ∀ lap ∈ laps, ∃ executed, lap.answer = .ok executed)
      (used : laps.length = bound) :
      Ends bound final laps [.check false] (final, .unfinished)

omit [Seconds τ] [Host η] [LoopClock η] [RandomSource ρ] [AudioStream σ] in
/-- A turn that goes well comes before what the other turns meet. -/
theorem Ends.cons {bound : Nat} {final : Runner τ η ρ σ} {laps : List Lap}
    {closing : List LoopCall} {result : Runner τ η ρ σ × Ending}
    (ends : Ends bound final laps closing result) (now : Nat) (executed : Bool) :
    Ends (bound + 1) final (⟨now, .ok executed⟩ :: laps) closing result := by
  have first : ∃ ran, (⟨now, .ok executed⟩ : Lap).answer = .ok ran := ⟨executed, rfl⟩
  cases ends with
  | stopped ran => exact .stopped (List.forall_mem_cons.mpr ⟨first, ran⟩)
  | halted ran now fault => exact .halted (List.forall_mem_cons.mpr ⟨first, ran⟩) now fault
  | brokenOff ran used =>
      exact .brokenOff (List.forall_mem_cons.mpr ⟨first, ran⟩) (congrArg (· + 1) used)

section Outcomes

variable {bound : Nat} {final : Runner τ η ρ σ} {laps : List Lap} {closing : List LoopCall}
  {result : Runner τ η ρ σ × Ending}

omit [Seconds τ] [Host η] [LoopClock η] [RandomSource ρ] [AudioStream σ] in
/-- The loop finishes when the user wants to stop, and only then. -/
theorem Ends.finished_iff (ends : Ends bound final laps closing result) :
    result.2 = .finished ↔ closing = [.check true] := by
  cases ends <;> simp

omit [Seconds τ] [Host η] [LoopClock η] [RandomSource ρ] [AudioStream σ] in
/-- The loop fails when a cycle does, and only then. -/
theorem Ends.failed_iff (ends : Ends bound final laps closing result) :
    (∃ error, result.2 = .failed error) ↔ ∃ lap ∈ laps, ∃ stop, lap.answer = .error stop := by
  have never : ∀ {laps : List Lap}, (∀ lap ∈ laps, ∃ executed, lap.answer = .ok executed) →
      ¬ ∃ lap ∈ laps, ∃ stop, lap.answer = .error stop := by
    rintro laps ran ⟨lap, listed, stop, stopped⟩
    obtain ⟨executed, answered⟩ := ran lap listed
    exact nomatch answered.symm.trans stopped
  cases ends with
  | stopped ran => exact ⟨fun ⟨_, failed⟩ => (nomatch failed), fun met => (never ran met).elim⟩
  | brokenOff ran used =>
      exact ⟨fun ⟨_, failed⟩ => (nomatch failed), fun met => (never ran met).elim⟩
  | halted ran now fault =>
      refine ⟨fun _ => ⟨⟨now, .error (.fault fault)⟩, ?_, .fault fault, rfl⟩, fun _ => ⟨_, rfl⟩⟩
      exact List.mem_append_right _ (List.mem_singleton_self _)

end Outcomes

omit [Seconds τ] [Host η] [RandomSource ρ] [AudioStream σ] in
theorem consistent_of_readClock {machine next : Runner τ η ρ σ} {now : Nat}
    (consistent : machine.Consistent) (shown : readClock machine = (now, next)) :
    next.Consistent := by
  have next_eq : (readClock machine).2 = next := congrArg Prod.snd shown
  rw [← next_eq]
  exact ⟨consistent.depth_eq, consistent.latch_lt⟩

omit [LoopClock η] in
/-- Behind a cycle, a consistent machine is consistent, and if the cycle stopped, the program was
at fault. -/
theorem consistent_of_cycle {machine next : Runner τ η ρ σ} {elapsed : τ}
    {answer : Except Stop Bool} (consistent : machine.Consistent)
    (cycled : machine.cycle elapsed = (next, answer)) :
    next.Consistent ∧ ∀ stop, answer = .error stop → ∃ fault, stop = .fault fault := by
  have next_eq : (machine.cycle elapsed).1 = next := congrArg Prod.fst cycled
  refine ⟨next_eq ▸ consistent.respond (.cycle elapsed), ?_⟩
  rintro stop rfl
  have named : (Event.cycle elapsed).NamesKey := trivial
  have unbroken : (Answer.cycled (machine.cycle elapsed).2).breach? = none :=
    Machine.respond_breach? consistent named
  rw [cycled] at unbroken
  cases stop with
  | fault fault => exact ⟨fault, rfl⟩
  | breach breach => cases unbroken

/-- What a loop does with a consistent machine. -/
theorem loop_performs {machine : Runner τ η ρ σ} (consistent : machine.Consistent)
    (previous bound : Nat) :
    ∃ laps closing final, Performs machine (lapCalls previous laps ++ closing) final ∧
      Ends bound final laps closing (loop machine previous bound) := by
  induction bound generalizing machine previous with
  | zero =>
      cases asked : machine.shouldTerminate with
      | true =>
          refine ⟨[], [.check true], machine, .check asked (.nil machine), ?_⟩
          rw [loop, if_pos asked]
          exact .stopped nofun
      | false =>
          refine ⟨[], [.check false], machine, .check asked (.nil machine), ?_⟩
          rw [loop, asked]
          exact .brokenOff nofun rfl
  | succ bound ih =>
      cases asked : machine.shouldTerminate with
      | true =>
          refine ⟨[], [.check true], machine, .check asked (.nil machine), ?_⟩
          rw [loop, if_pos asked]
          exact .stopped nofun
      | false =>
          have going : ¬ machine.shouldTerminate = true := by
            rw [asked]
            exact Bool.false_ne_true
          -- One turn is taken off the front, and the machine behind it is consistent again.
          rcases shown : readClock machine with ⟨now, next⟩
          rcases cycled : next.cycle (Seconds.ofNanoseconds (now - previous)) with ⟨after, answer⟩
          obtain ⟨after_consistent, fault_of_stop⟩ :=
            consistent_of_cycle (consistent_of_readClock consistent shown) cycled
          have turned : turn machine previous = (now, after, answer) := by
            rw [turn, shown, ← cycled]
          rw [loop, if_neg going, turned]
          cases answer with
          | ok executed =>
              obtain ⟨laps, closing, final, performs, ends⟩ := ih after_consistent now
              refine ⟨⟨now, .ok executed⟩ :: laps, closing, final, ?_, ends.cons now executed⟩
              exact .check asked (.read shown (.cycle cycled performs))
          | error stop =>
              obtain ⟨fault, rfl⟩ := fault_of_stop stop rfl
              have first : ∀ lap ∈ ([] : List Lap), ∃ executed, lap.answer = .ok executed := nofun
              refine ⟨[⟨now, .error (.fault fault)⟩], [], after, ?_, .halted first now fault⟩
              exact .check asked (.read shown (.cycle cycled (.nil after)))

/-- A loop that has ended does not need more turns. -/
theorem loop_add {machine : Runner τ η ρ σ} {previous bound : Nat}
    (ended : (loop machine previous bound).2 ≠ .unfinished) (more : Nat) :
    loop machine previous (bound + more) = loop machine previous bound := by
  induction bound generalizing machine previous with
  | zero =>
      have asked : machine.shouldTerminate = true := by
        by_contra going
        exact ended (if_neg going)
      cases more with
      | zero => rfl
      | succ more =>
          rw [Nat.zero_add, loop, loop, if_pos asked, if_pos asked]
  | succ bound ih =>
      rw [Nat.add_right_comm]
      rw [loop] at ended ⊢
      rw [loop]
      split
      · rfl
      · next going =>
          rw [if_neg going] at ended
          rcases turned : turn machine previous with ⟨now, after, answer⟩
          rw [turned] at ended
          cases answer with
          | ok executed => exact ih ended
          | error stop => cases stop <;> rfl

/-! ## Sessions -/

/-- The machine that a session puts its program into. -/
def blank (environment : Environment η ρ σ) (arguments : CommandLine.Arguments) (host : η) :
    Runner τ η ρ σ :=
  let opened := WindowDisplay.openOn host arguments.refreshRate
  (Machine.fresh arguments.config opened.1 environment.random none).recordAll opened.2

/-- The machine that the loop of a session begins with. -/
def prepared (environment : Environment η ρ σ) (arguments : CommandLine.Arguments)
    (rom : List UInt8) (host : η) : Runner τ η ρ σ :=
  let loaded := ((blank environment arguments host).loadRom rom).1
  if arguments.mute then loaded else attachSound loaded environment.device

/-- What is left of a machine and an outcome. -/
def summary (result : Runner τ η ρ σ × Ending) : Report η σ where
  journal := result.1.journal.toList
  ending := result.2
  window := some result.1.display.host
  stream := result.1.buzzer.map (·.stream)

omit [Seconds τ] [Host η] [LoopClock η] [RandomSource ρ] in
theorem consistent_attachSound {machine : Runner τ η ρ σ} (consistent : machine.Consistent)
    (device : Option (OutputDevice σ)) : (attachSound machine device).Consistent := by
  rw [attachSound]
  split <;> exact ⟨consistent.depth_eq, consistent.latch_lt⟩

omit [LoopClock η] [RandomSource ρ] in
theorem consistent_prepared (environment : Environment η ρ σ)
    (arguments : CommandLine.Arguments) (rom : List UInt8) (host : η) :
    (prepared environment arguments rom host : Runner τ η ρ σ).Consistent := by
  have started : (blank environment arguments host : Runner τ η ρ σ).Consistent :=
    ⟨rfl, nofun⟩
  rw [prepared]
  split
  · exact started.loadRom rom
  · exact consistent_attachSound (started.loadRom rom) environment.device

/-- Once the program is in memory, there is the loop. -/
theorem play_of_loaded {machine : Runner τ η ρ σ} {rom : List UInt8}
    (loaded : (machine.loadRom rom).2 = .ok ()) (device : Option (OutputDevice σ)) (mute : Bool)
    (bound : Nat) :
    play machine rom device mute bound =
      let ready := if mute then (machine.loadRom rom).1
        else attachSound (machine.loadRom rom).1 device
      loop (readClock ready).2 (readClock ready).1 bound := by
  rw [play]
  rcases taken : machine.loadRom rom with ⟨after, result⟩
  rw [taken] at loaded
  obtain rfl : result = .ok () := loaded
  rfl

/-- A session that gets as far as its window plays the program that it has read. -/
theorem run_eq_play {environment : Environment η ρ σ} {arguments : CommandLine.Arguments}
    {rom : List UInt8} {host : η} (read : readRom environment.readFile arguments.rom = .ok rom)
    (opened : environment.openWindow ⟨title arguments.rom, arguments.scale⟩ = .ok host)
    (bound : Nat) :
    run τ environment arguments bound =
      summary (play (blank environment arguments host : Runner τ η ρ σ) rom environment.device
        arguments.mute bound) := by
  have roomy : romStart ≤ arguments.config.memorySize := by
    change romStart ≤ defaultCapacity
    decide
  have bounded : arguments.config.memorySize ≤ tableLimit := by
    change defaultCapacity ≤ tableLimit
    decide
  have built : (Machine.start arguments.config
      (WindowDisplay.openOn host arguments.refreshRate).1 environment.random none :
        Except Breach (Runner τ η ρ σ)) = _ := Machine.start_eq_fresh _ _ _ _ roomy bounded
  simp only [run, read, opened, built]
  rfl

/-- A session that gets as far as its loop is that loop. -/
theorem run_eq_summary {environment : Environment η ρ σ} {arguments : CommandLine.Arguments}
    {rom : List UInt8} {host : η} (read : readRom environment.readFile arguments.rom = .ok rom)
    (opened : environment.openWindow ⟨title arguments.rom, arguments.scale⟩ = .ok host)
    (fits : rom.length ≤ defaultCapacity - romStart) (bound : Nat) :
    let machine : Runner τ η ρ σ := prepared environment arguments rom host
    run τ environment arguments bound =
      summary (loop (readClock machine).2 (readClock machine).1 bound) := by
  intro machine
  have capacity_eq : (blank environment arguments host : Runner τ η ρ σ).memory.capacity =
      defaultCapacity := rfl
  rw [← capacity_eq] at fits
  have played : play (blank environment arguments host : Runner τ η ρ σ) rom environment.device
      arguments.mute bound = loop (readClock machine).2 (readClock machine).1 bound :=
    play_of_loaded (Machine.loadRom_of_fits fits).1 environment.device arguments.mute bound
  exact (run_eq_play read opened bound).trans (congrArg summary played)

/-- A session whose program was read and fits, and whose window was opened, reads the clock of its
loop once and then makes the calls of some turns, one cycle in each, and at last what `Ends`
says: a question that is answered yes, nothing behind a cycle that met a fault, or a question
behind all the turns that it was given. Behind every turn, the times that were passed to the
machine add up to the time since the first reading, as long as the clock does not run backwards.
The session finishes if it ended with the question, and fails if a cycle did. If it ended in one
of these ways, it does the same when it is given more turns. -/
theorem session_passes_all_time {environment : Environment η ρ σ}
    {arguments : CommandLine.Arguments} {rom : List UInt8} {host : η}
    (read : readRom environment.readFile arguments.rom = .ok rom)
    (opened : environment.openWindow ⟨title arguments.rom, arguments.scale⟩ = .ok host)
    (fits : rom.length ≤ defaultCapacity - romStart) (bound : Nat) :
    ∃ start laps closing final result,
      Performs (prepared environment arguments rom host : Runner τ η ρ σ)
          (.read start :: lapCalls start laps ++ closing) final ∧
        Ends bound final laps closing result ∧
        run τ environment arguments bound = summary result ∧
        (∀ earlier lap later, laps = earlier ++ lap :: later →
          (start :: (earlier ++ [lap]).map Lap.now).IsChain (· ≤ ·) →
          timePassed start (earlier ++ [lap]) = lap.now - start) ∧
        (result.2 = .finished ↔ closing = [.check true]) ∧
        ((∃ error, result.2 = .failed error) ↔
          ∃ lap ∈ laps, ∃ stop, lap.answer = .error stop) ∧
        (result.2 ≠ .unfinished → ∀ more,
          run τ environment arguments (bound + more) = run τ environment arguments bound) := by
  have consistent : (prepared environment arguments rom host : Runner τ η ρ σ).Consistent :=
    consistent_prepared environment arguments rom host
  have ran : ∀ bound, run τ environment arguments bound = _ :=
    run_eq_summary read opened fits
  rcases shown : readClock (prepared environment arguments rom host : Runner τ η ρ σ) with
    ⟨start, ready⟩
  obtain ⟨laps, closing, final, performs, ends⟩ :=
    loop_performs (consistent_of_readClock consistent shown) start bound
  refine ⟨start, laps, closing, final, _, .read shown performs, ends, ?_, ?_, ends.finished_iff,
    ends.failed_iff, ?_⟩
  · rw [ran, shown]
  · rintro earlier lap later - forward
    have total := timePassed_concat forward
    omega
  · intro ended more
    rw [ran, ran, shown, loop_add ended]

/-- A program that jumps to itself, in a window that is closed in the second turn. -/
theorem session_passes_all_time_until_closed :
    ∃ (environment : Environment ScriptedHost ByteCycle ScriptedStream)
      (arguments : CommandLine.Arguments) (host : ScriptedHost) (start : Nat) (laps : List Lap)
      (final : Runner Rat ScriptedHost ByteCycle ScriptedStream),
      readRom environment.readFile arguments.rom = .ok [0x12, 0x00] ∧
        environment.openWindow ⟨title arguments.rom, arguments.scale⟩ = .ok host ∧
        Performs (prepared environment arguments [0x12, 0x00] host)
          (.read start :: lapCalls start laps ++ [.check true]) final ∧
        run Rat environment arguments 3 = summary (final, .finished) := by
  let turns : List Turn := [{ nanoseconds := 5 }, { nanoseconds := 7, close := true }]
  let arguments : CommandLine.Arguments := { rom := "loop.ch8" }
  let host : ScriptedHost := { window := ⟨title arguments.rom, arguments.scale⟩, turns }
  let environment : Environment ScriptedHost ByteCycle ScriptedStream := {
    readFile := fun _ => .ok [0x12, 0x00]
    openWindow := fun window => .ok { window, turns }
    random := .ofBytes 0 []
    device := none }
  have read : readRom environment.readFile arguments.rom = .ok [0x12, 0x00] := rfl
  have opened : environment.openWindow ⟨title arguments.rom, arguments.scale⟩ = .ok host := rfl
  obtain ⟨start, laps, closing, final, result, performs, ends, report_eq, -, finished_iff, -⟩ :=
    session_passes_all_time (τ := Rat) read opened (by decide) 3
  have finished : (run Rat environment arguments 3).ending = .finished := by decide +kernel
  rw [report_eq] at finished
  obtain rfl := finished_iff.mp finished
  refine ⟨environment, arguments, host, start, laps, final, read, opened, performs, ?_⟩
  cases ends with
  | stopped ran => exact report_eq

end Chip8.Session
