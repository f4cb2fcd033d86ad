/-
# The buzzer follows the sound timer

A cycle makes one request to the buzzer: for sound if the sound timer still runs when the time
of the cycle has passed, and for silence otherwise. What becomes of the requests is up to the
buzzer. If it is a beeper whose stream answers truly and could be halted when it was opened,
then the beeper knows after each cycle whether the stream plays, and has tried to change that
exactly if it was not what the cycle asked for. Nothing is assumed about which attempts fail.

The machine may be in any state when the beeper is connected to it. It runs the same with and
without the tapes on which requests and attempts are counted.
-/

import Chip8.Proofs.Machine.Map
import Chip8.Proofs.Sound.Toggle
import Chip8.Proofs.Tape

namespace Chip8

theorem Beeper.untapedHom {σ : Type} [AudioStream σ] :
    BuzzerHom fun tape : TapedBuzzer (Beeper (TapedStream σ)) => tape.buzzer.untaped :=
  ⟨fun tape active => by
    change Beeper.setActive tape.buzzer.untaped active = _
    rw [setActive_untaped]
    rfl⟩

namespace Machine

variable {τ δ ρ σ : Type} [Seconds τ] [AudioStream σ]

/-- What a cycle asks of the buzzer: whether the sound timer still runs when time has passed. -/
def request {β : Type} (machine : Machine τ δ ρ β) (elapsed : τ) : Bool :=
  (machine.registers.sound.decay elapsed).isActive

/-- The machine connected to a beeper, with a tape for requests. -/
def connect {β : Type} (machine : Machine τ δ ρ β) (beeper : Beeper (TapedStream σ)) :
    Machine τ δ ρ (TapedBuzzer (Beeper (TapedStream σ))) :=
  machine.withBuzzer ⟨beeper, []⟩

/-- The machine without the tapes for requests and attempts. -/
def unrecorded (machine : Machine τ δ ρ (TapedBuzzer (Beeper (TapedStream σ)))) :
    Machine τ δ ρ (Beeper σ) :=
  machine.withBuzzer machine.buzzer.buzzer.untaped

variable [Display δ] [ScreenDisplay δ] [RandomSource ρ]
variable {machine : Machine τ δ ρ (TapedBuzzer (Beeper (TapedStream σ)))}

theorem run_unrecorded (machine : Machine τ δ ρ (TapedBuzzer (Beeper (TapedStream σ))))
    (times : List τ) :
    machine.unrecorded.run (times.map .cycle) =
      ((machine.run (times.map .cycle)).1.unrecorded, (machine.run (times.map .cycle)).2) :=
  run_map DisplayHom.id Beeper.untapedHom machine times

/-- What a run has asked for is on the tape, and that is all that was asked of the beeper. -/
theorem exists_requests_run (machine : Machine τ δ ρ (TapedBuzzer (Beeper (TapedStream σ))))
    (times : List τ) :
    ∃ requests, (machine.run (times.map .cycle)).1.buzzer.requests =
        machine.buzzer.requests ++ requests ∧
      (machine.run (times.map .cycle)).1.buzzer.buzzer =
        machine.buzzer.buzzer.setAll requests := by
  induction times generalizing machine with
  | nil => exact ⟨[], (List.append_nil _).symm, rfl⟩
  | cons elapsed rest ih =>
      obtain ⟨requests, requests_eq, beeper_eq⟩ := ih (machine.cycle elapsed).1
      rw [buzzer_cycle] at requests_eq beeper_eq
      refine ⟨machine.request elapsed :: requests, ?_, beeper_eq⟩
      exact requests_eq.trans (List.append_assoc _ _ _)

variable [LawfulStream σ]

/-- One more cycle makes one request, which the beeper deals with. If its attempt to do so
fails, then it makes none while the opposite is asked for, and another one in the first cycle
that asks for the same again. -/
structure Beeps (machine : Machine τ δ ρ (TapedBuzzer (Beeper (TapedStream σ)))) (elapsed : τ) :
    Prop where
  requests_eq : (machine.cycle elapsed).1.buzzer.requests =
    machine.buzzer.requests ++ [machine.request elapsed]
  obeys : Beeper.Obeys machine.buzzer.buzzer (machine.cycle elapsed).1.buzzer.buzzer
    (machine.request elapsed)
  retries : (machine.cycle elapsed).1.buzzer.buzzer.stream.toggles =
      machine.buzzer.buzzer.stream.toggles ++ [⟨machine.request elapsed, false⟩] →
    ∀ (times : List τ) (last : τ),
      let later := ((machine.cycle elapsed).1.run (times.map .cycle)).1
      later.buzzer.requests = (machine.cycle elapsed).1.buzzer.requests ++
        List.replicate times.length (!machine.request elapsed) →
      later.request last = machine.request elapsed →
      later.buzzer.buzzer.stream.toggles =
          (machine.cycle elapsed).1.buzzer.buzzer.stream.toggles ∧
        ∃ succeeded, (later.cycle last).1.buzzer.buzzer.stream.toggles =
          later.buzzer.buzzer.stream.toggles ++ [⟨machine.request elapsed, succeeded⟩]

theorem beeps_of_informed (informed : machine.buzzer.buzzer.Informed) (elapsed : τ) :
    machine.Beeps elapsed := by
  have cycled : (machine.cycle elapsed).1.buzzer =
      ⟨(machine.buzzer.buzzer.setActive (machine.request elapsed)).1,
        machine.buzzer.requests ++ [machine.request elapsed]⟩ := machine.buzzer_cycle elapsed
  refine ⟨congrArg TapedBuzzer.requests cycled, ?_, ?_⟩
  · rw [cycled]
    exact informed.obeys _
  · intro refused times last later opposite same
    rw [cycled] at refused
    -- What the cycles in between asked for is on the tape, and it was the opposite throughout.
    obtain ⟨requests, requests_eq, beeper_eq⟩ :=
      exists_requests_run (machine.cycle elapsed).1 times
    obtain rfl := List.append_cancel_left (requests_eq.symm.trans opposite)
    have again : (later.cycle last).1.buzzer.buzzer =
        (later.buzzer.buzzer.setActive (machine.request elapsed)).1 := by
      rw [buzzer_cycle, ← same]
      rfl
    rw [again, beeper_eq, cycled]
    exact informed.retry refused times.length

/-- A beeper on a device that has a stream which can be halted, connected to any machine. The
run is the one without tapes. Each cycle makes one request, for whether the sound timer still
runs when time has passed, and is dealt with as `Beeps` says: the flag is right, an attempt is
made exactly if the stream did something else, the stream does what was asked for unless the
attempt failed, and an attempt that failed is made again. The attempts that succeed alternate,
behind the first, which halted the stream when it was opened. -/
theorem beeper_follows_sound_timer {β : Type} {device : OutputDevice σ} {format : StreamConfig}
    {stream : σ} (described : device.config = .ok format)
    (built : device.build format = .ok stream)
    (halted : (AudioStream.pause stream).2 = .ok ()) (machine : Machine τ δ ρ β) :
    ∃ beeper, (Beeper.openOn (some device.taped)).2 = .ok beeper ∧
      (Beeper.openOn (some device)).2 = .ok beeper.untaped ∧
      ∀ (times : List τ) (elapsed : τ),
        let start := machine.connect beeper
        let before := (start.run (times.map .cycle)).1
        (machine.withBuzzer beeper.untaped).run (times.map .cycle) =
            (before.unrecorded, (start.run (times.map .cycle)).2) ∧
          before.Beeps elapsed ∧
          Beeper.Alternating (before.cycle elapsed).1.buzzer.buzzer.stream := by
  obtain ⟨beeper, opened, opened_untaped, informed, alternating⟩ :=
    Beeper.exists_openOn_taped described built halted
  refine ⟨beeper, opened, opened_untaped, ?_⟩
  intro times elapsed start before
  obtain ⟨requests, -, beeper_eq⟩ := exists_requests_run start times
  obtain ⟨informed', alternating'⟩ := Beeper.setAll_invariant informed alternating requests
  have kept : before.buzzer.buzzer = beeper.setAll requests := beeper_eq
  rw [← kept] at informed' alternating'
  have beeps := beeps_of_informed informed' elapsed
  exact ⟨run_unrecorded start times, beeps, alternating'.of_obeys beeps.obeys⟩

/-- A program that lets the sound timer run, and a stream that refuses to start once. The third
cycle asks for sound in vain, and the fourth one tries again. -/
theorem beeper_follows_sound_timer_after_refusal :
    ∃ before : Machine Rat HeadlessDisplay ByteCycle
        (TapedBuzzer (Beeper (TapedStream ScriptedStream))),
      before.Beeps (1 / 60) ∧
        before.buzzer.buzzer.stream.toggles = [⟨false, true⟩] ∧
        (before.run ([1 / 60, 1 / 60].map .cycle)).1.buzzer.buzzer.stream.toggles =
          [⟨false, true⟩, ⟨true, false⟩, ⟨true, true⟩] ∧
        (before.run ([1 / 60, 1 / 60].map .cycle)).1.buzzer.requests =
          [false, false, true, true] := by
  let format : StreamConfig := { format := .f32, channels := 2, rate := 44100 }
  let stream : ScriptedStream :=
    { outcomes := [none, some .unavailable], playing := true, calls := #[.build format] }
  let device : OutputDevice ScriptedStream :=
    ScriptedDevice.toDevice { config := format, outcomes := stream.outcomes }
  have described : device.config = .ok format := rfl
  have built : device.build format = .ok stream := rfl
  have halted : (AudioStream.pause stream).2 = .ok () := rfl
  let unloaded : Machine Rat HeadlessDisplay ByteCycle BuzzerTape :=
    fresh { instructionsPerSecond := 60, memorySize := 518 } {} (.ofBytes 0 []) {}
  let machine := (unloaded.loadRom [0x60, 0x05, 0xF0, 0x18, 0x12, 0x04]).1
  obtain ⟨beeper, opened, -, holds⟩ :=
    beeper_follows_sound_timer described built halted machine
  obtain rfl := Except.ok.inj opened
  refine ⟨_, (holds [1 / 60, 1 / 60] (1 / 60)).2.1, ?_⟩
  decide +kernel

end Machine

end Chip8
