/-
# The refresh rate does not reach a program

Two machines in windows run the same program with the same random bytes and are told the same
times. Their windows follow the same script of keys, but they are refreshed at different rates,
and different clocks are read for it, so that a frame is shown here and skipped there. Each
poll takes in the batch that is next in the script, on both of them, and so nothing that the
program can tell differs: neither registers and timers, nor memory, stack and screen, nor the
keys and the one that is latched. Nothing is assumed about the clocks.

Machines are simultaneous if they have the same core and are at the same time. Cycles keep them
so, provided that their polls bring the same keys.
-/

import Chip8.Proofs.Machine.Core
import Chip8.Proofs.Machine.Countdown
import Chip8.Proofs.Window.Polls

namespace Chip8

namespace Machine

/-! ## Simultaneous machines -/

section Simultaneous

variable {τ δ δ' ρ β β' : Type} [Display δ] [ScreenDisplay δ] [Display δ'] [ScreenDisplay δ']

/-- Two machines are at the same point of the same program, at the same time. -/
structure Simultaneous (first : Machine τ δ ρ β) (second : Machine τ δ' ρ β') : Prop where
  core_eq : first.core = second.core
  timer_eq : ∀ name, first.registers.timer name = second.registers.timer name
  backlog_eq : first.backlog = second.backlog
  period_eq : first.period = second.period

namespace Simultaneous

variable {first : Machine τ δ ρ β} {second : Machine τ δ' ρ β'}

theorem registers_eq (same : first.Simultaneous second) : first.registers = second.registers := by
  have core_eq := same.core_eq
  simp only [core, Core.mk.injEq] at core_eq
  obtain ⟨values_eq, pc_eq, index_eq, -⟩ := core_eq
  have delay_eq : first.registers.delay = second.registers.delay := same.timer_eq .delay
  have sound_eq : first.registers.sound = second.registers.sound := same.timer_eq .sound
  calc first.registers
      = first.registers.withTimers first.registers.delay first.registers.sound := rfl
    _ = second.registers := by
        simp only [Registers.withTimers, values_eq, pc_eq, index_eq, delay_eq, sound_eq]

theorem loadRom (same : first.Simultaneous second) (rom : List UInt8) :
    (first.loadRom rom).1.Simultaneous (second.loadRom rom).1 := by
  obtain ⟨core_eq, timer_eq, backlog_eq, period_eq⟩ := same
  have loaded_eq := core_loadRom core_eq rom
  obtain ⟨memory, journal, loaded, -⟩ := first.loadRom_eq rom
  obtain ⟨memory', journal', loaded', -⟩ := second.loadRom_eq rom
  rw [loaded, loaded'] at loaded_eq ⊢
  exact ⟨loaded_eq, timer_eq, backlog_eq, period_eq⟩

/-- A frame and a poll behind it take no time. -/
theorem refresh (same : first.Simultaneous second)
    (keypad_eq : ScreenDisplay.keypad first.refresh.display =
      ScreenDisplay.keypad second.refresh.display) :
    first.refresh.Simultaneous second.refresh :=
  ⟨core_refresh_of_keypad same.core_eq keypad_eq, same.timer_eq, same.backlog_eq,
    same.period_eq⟩

variable [Seconds τ] [Buzzer β] [Buzzer β']

omit [Buzzer β] [Buzzer β'] in
theorem isEarly_eq (same : first.Simultaneous second) (elapsed : τ) :
    second.isEarly elapsed = first.isEarly elapsed := by
  rw [isEarly, isEarly, same.backlog_eq, same.period_eq]

theorem passTime (same : first.Simultaneous second) (elapsed : τ) :
    (first.passTime elapsed).Simultaneous (second.passTime elapsed) where
  core_eq := same.core_eq
  timer_eq name := by
    change (first.registers.decayTimers elapsed).timer name =
      (second.registers.decayTimers elapsed).timer name
    rw [Registers.timer_decayTimers, Registers.timer_decayTimers, same.timer_eq]
  backlog_eq := congrArg (· + elapsed) same.backlog_eq
  period_eq := same.period_eq

theorem clocked (same : first.Simultaneous second) (elapsed : τ) :
    (first.clocked elapsed).Simultaneous (second.clocked elapsed) := by
  obtain ⟨core_eq, timer_eq, backlog_eq, period_eq⟩ := same.passTime elapsed
  exact ⟨core_eq, timer_eq, congrArg₂ (· - ·) backlog_eq period_eq, period_eq⟩

omit [Buzzer β] [Buzzer β'] in
theorem tick [RandomSource ρ] (same : first.Simultaneous second) :
    first.tick.1.Simultaneous second.tick.1 ∧ second.tick.2 = first.tick.2 := by
  -- What an instruction can read outside of the core is the delay timer, and that is the same.
  obtain ⟨core_eq, answer_eq⟩ := core_tick same.core_eq fun _ _ =>
    congrArg Timer.ticks (same.timer_eq .delay).symm
  obtain ⟨-, -, period_eq, backlog_eq⟩ := first.tick_leaves
  obtain ⟨-, -, period_eq', backlog_eq'⟩ := second.tick_leaves
  refine ⟨⟨core_eq, ?_, ?_, ?_⟩, answer_eq.symm⟩
  · intro name
    have values_eq : first.registers.value = second.registers.value := by
      rw [same.registers_eq]
    have set_eq : first.tickDeed?.bind (Deed.sets? name) =
        second.tickDeed?.bind (Deed.sets? name) := by
      rw [tickDeed?, tickDeed?, answer_eq]
      cases second.tick.2 with
      | error stop => rfl
      | ok instruction =>
          simp only [Option.bind_some, Deed.sets?, values_eq]
    rw [timer_tick, timer_tick, set_eq, same.timer_eq]
  · rw [backlog_eq, backlog_eq', same.backlog_eq]
  · rw [period_eq, period_eq', same.period_eq]

end Simultaneous

end Simultaneous

/-! ## Machines in windows -/

section Windows

variable {τ η η' ρ β β' : Type} [Host η] [Host η'] {host : η} {host' : η'}
variable {first : Machine τ (WindowDisplay η) ρ β} {second : Machine τ (WindowDisplay η') ρ β'}
variable {script : Nat → KeyBatch}

/-- Simultaneous machines in windows that have been polled as often as each other. -/
structure Paired (host : η) (host' : η') (first : Machine τ (WindowDisplay η) ρ β)
    (second : Machine τ (WindowDisplay η') ρ β') : Prop where
  simultaneous : first.Simultaneous second
  unpumped : first.display.pumped = false
  unpumped' : second.display.pumped = false
  inPhase : ∃ polls, first.display.InPhase host polls ∧ second.display.InPhase host' polls

/-- What a tick draws does not reach the host. -/
theorem tick_leaves_host [Seconds τ] [RandomSource ρ] (machine : Machine τ (WindowDisplay η) ρ β) :
    machine.tick.1.display.host = machine.display.host ∧
      machine.tick.1.display.pumped = machine.display.pumped := by
  have kept := machine.tick_preserves_display
    (fun display : WindowDisplay η => (display.host, display.pumped)) (fun _ => rfl)
    fun display sprite x y =>
      congrArg (fun display => (display.host, display.pumped))
        (display.perform_drawSprite sprite x y)
  simpa only [Prod.mk.injEq] using kept

namespace Paired

theorem refresh (paired : Paired host host' first second)
    (follows : Host.FollowsScript host script) (follows' : Host.FollowsScript host' script) :
    Paired host host' first.refresh second.refresh := by
  obtain ⟨same, unpumped, unpumped', polls, inPhase, inPhase'⟩ := paired
  obtain ⟨polled, silent, keypad_eq⟩ := inPhase.refresh unpumped follows
  obtain ⟨polled', silent', keypad_eq'⟩ := inPhase'.refresh unpumped' follows'
  refine ⟨same.refresh ?_, silent, silent', polls + 1, polled, polled'⟩
  have before : first.display.keypad = second.display.keypad := congrArg Core.keypad same.core_eq
  exact keypad_eq.trans ((congrArg (·.update (script polls)) before).trans keypad_eq'.symm)

theorem loadRom (paired : Paired host host' first second) (rom : List UInt8) :
    Paired host host' (first.loadRom rom).1 (second.loadRom rom).1 := by
  obtain ⟨same, unpumped, unpumped', inPhase⟩ := paired
  have loaded_same := same.loadRom rom
  obtain ⟨memory, journal, loaded, -⟩ := first.loadRom_eq rom
  obtain ⟨memory', journal', loaded', -⟩ := second.loadRom_eq rom
  rw [loaded, loaded'] at loaded_same ⊢
  exact ⟨loaded_same, unpumped, unpumped', inPhase⟩

/-- No tick reaches a host. -/
theorem tick [Seconds τ] [RandomSource ρ] (paired : Paired host host' first second) :
    Paired host host' first.tick.1 second.tick.1 ∧ second.tick.2 = first.tick.2 := by
  obtain ⟨same, unpumped, unpumped', inPhase⟩ := paired
  obtain ⟨ticked, answer_eq⟩ := same.tick
  obtain ⟨host_eq, pumped_eq⟩ := first.tick_leaves_host
  obtain ⟨host_eq', pumped_eq'⟩ := second.tick_leaves_host
  refine ⟨⟨ticked, pumped_eq.trans unpumped, pumped_eq'.trans unpumped', ?_⟩, answer_eq⟩
  simp only [WindowDisplay.InPhase, host_eq, pumped_eq, host_eq', pumped_eq'] at inPhase ⊢
  exact inPhase

variable [Seconds τ] [RandomSource ρ] [Buzzer β] [Buzzer β']

theorem cycle (paired : Paired host host' first second)
    (follows : Host.FollowsScript host script) (follows' : Host.FollowsScript host' script)
    (elapsed : τ) :
    Paired host host' (first.cycle elapsed).1 (second.cycle elapsed).1 ∧
      (second.cycle elapsed).2 = (first.cycle elapsed).2 := by
  obtain ⟨same, unpumped, unpumped', inPhase⟩ := paired
  apply cycle_related fun after after' => Paired host host' after after'
  · exact same.isEarly_eq elapsed
  · exact ⟨same.passTime elapsed, unpumped, unpumped', inPhase⟩
  · intro _
    have clocked : Paired host host' (first.clocked elapsed) (second.clocked elapsed) :=
      ⟨same.clocked elapsed, unpumped, unpumped', inPhase⟩
    exact clocked.tick
  · intro after after' paired
    exact paired.refresh follows follows'

theorem run (paired : Paired host host' first second)
    (follows : Host.FollowsScript host script) (follows' : Host.FollowsScript host' script)
    (times : List τ) :
    Paired host host' (first.run (times.map .cycle)).1 (second.run (times.map .cycle)).1 ∧
      (first.run (times.map .cycle)).2 = (second.run (times.map .cycle)).2 := by
  induction times generalizing first second with
  | nil => exact ⟨paired, rfl⟩
  | cons elapsed rest ih =>
      obtain ⟨cycled, answer_eq⟩ := paired.cycle follows follows' elapsed
      obtain ⟨final, answers_eq⟩ := ih cycled
      rw [run_cycles_cons, run_cycles_cons, answers_eq, answer_eq]
      exact ⟨final, rfl⟩

end Paired

/-- New machines whose windows have just been opened. -/
theorem paired_of_start [Seconds τ] {config : Config} {refreshRate refreshRate' : UInt32}
    {random : ρ} {buzzer : β} {buzzer' : β'}
    (built : start config (WindowDisplay.openOn host refreshRate).1 random buzzer = .ok first)
    (built' : start config (WindowDisplay.openOn host' refreshRate').1 random buzzer' =
      .ok second) :
    Paired host host' first second := by
  obtain ⟨-, rfl⟩ := eq_fresh_of_start built
  obtain ⟨-, rfl⟩ := eq_fresh_of_start built'
  exact ⟨⟨rfl, fun _ => rfl, rfl, rfl⟩, rfl, rfl, 0, WindowDisplay.inPhase_openOn host refreshRate,
    WindowDisplay.inPhase_openOn host' refreshRate'⟩

variable [Seconds τ] [RandomSource ρ] [Buzzer β] [Buzzer β']

/-- Two hosts show every frame and follow the same script of keys. In whatever rounds a display
in a window is called, and however often it is refreshed, its host takes in events exactly once
in each round, and the poll at its end gives the keypad the batch of the script that is next.
And two new machines in such windows, built from the same configuration and with the same source
of random bytes, give the same answers when they run the same program for the same times. They
have the same registers, timers included, and the same core. -/
theorem program_independent_of_refresh (follows : Host.FollowsScript host script)
    (follows' : Host.FollowsScript host' script) (refreshRate refreshRate' : UInt32) :
    (∀ rounds next, WindowDisplay.OneBatch host script refreshRate rounds next) ∧
    ∀ {config : Config} {random : ρ} {buzzer : β} {buzzer' : β'}
      {blank : Machine τ (WindowDisplay η) ρ β} {blank' : Machine τ (WindowDisplay η') ρ β'},
      start config (WindowDisplay.openOn host refreshRate).1 random buzzer = .ok blank →
      start config (WindowDisplay.openOn host' refreshRate').1 random buzzer' = .ok blank' →
      ∀ (rom : List UInt8) (times : List τ),
        let first := (blank.loadRom rom).1.run (times.map .cycle)
        let second := (blank'.loadRom rom).1.run (times.map .cycle)
        first.2 = second.2 ∧ first.1.registers = second.1.registers ∧
          first.1.core = second.1.core := by
  refine ⟨WindowDisplay.oneBatch follows refreshRate, ?_⟩
  intro config random buzzer buzzer' blank blank' built built' rom times first second
  have loaded := (paired_of_start built built').loadRom rom
  obtain ⟨final, answers_eq⟩ := loaded.run follows follows' times
  exact ⟨answers_eq, final.simultaneous.registers_eq, final.simultaneous.core_eq⟩

/-- The second key goes down before the first poll. One window never shows a frame, since its
clock stands still, and the other one shows every frame, since it waits for no time. -/
theorem program_independent_of_skipped_frames :
    ∃ blank blank' : Machine Rat (WindowDisplay ScriptedHost) ByteCycle BuzzerTape,
      let skipping := (blank.loadRom [0x60, 0x02, 0xE0, 0x9E]).1.run ([1 / 2, 1 / 2].map .cycle)
      let showing := (blank'.loadRom [0x60, 0x02, 0xE0, 0x9E]).1.run ([1 / 2, 1 / 2].map .cycle)
      skipping.1.registers = showing.1.registers ∧ showing.1.registers.pc = 0x206 ∧
        skipping.1.display.host.shown.isSome = false ∧
        showing.1.display.host.shown.isSome = true := by
  let host : ScriptedHost := { window := ⟨"", .x1⟩, waiting := [⟨[.digit2], []⟩] }
  let config : Config := { instructionsPerSecond := 2, memorySize := 516 }
  let slow := (WindowDisplay.openOn host 60).1
  let fast := (WindowDisplay.openOn host 4294967295).1
  let blank : Machine Rat (WindowDisplay ScriptedHost) ByteCycle BuzzerTape :=
    fresh config slow (.ofBytes 0 []) {}
  let blank' : Machine Rat (WindowDisplay ScriptedHost) ByteCycle BuzzerTape :=
    fresh config fast (.ofBytes 0 []) {}
  have built : start config slow (.ofBytes 0 []) {} = .ok blank :=
    start_eq_fresh _ _ _ _ (by decide) (by decide)
  have built' : start config fast (.ofBytes 0 []) {} = .ok blank' :=
    start_eq_fresh _ _ _ _ (by decide) (by decide)
  have follows : Host.FollowsScript host host.batch := ScriptedHost.followsScript rfl
  have same := (program_independent_of_refresh follows follows 60 4294967295).2 built built'
    [0x60, 0x02, 0xE0, 0x9E] [1 / 2, 1 / 2]
  refine ⟨blank, blank', same.2.1, ?_⟩
  decide +kernel

end Windows

end Machine

end Chip8
