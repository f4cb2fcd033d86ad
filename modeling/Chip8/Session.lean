/-
# A session

A session reads the program, opens a window, puts the program into the memory of
a new machine, connects a beeper unless it is to be mute, and then runs the
machine in a loop until the user ends it or the machine meets a fault.

The loop reads its clock once a turn. The time between two readings is what the
machine is told has gone by, so that no time is lost between turns, whatever a
turn takes. Whether the user wants to stop is asked before each turn.

The loop is given a number of turns after which it is broken off. A session on a
host that closes its window some day ends by itself if the number is large
enough.
-/

import Chip8.Display.Window
import Chip8.Machine.Cycle
import Chip8.RomFile
import Chip8.Sound.Beeper

namespace Chip8

/-- What a session needs of the world. -/
structure Environment (η ρ σ : Type) where
  /-- How to read a file. -/
  readFile : FileReader
  /-- How to open a window. -/
  openWindow : WindowRequest → Except WindowError η
  /-- Where random bytes come from. -/
  random : ρ
  /-- The output device for sound, if there is one. -/
  device : Option (OutputDevice σ)

/-- Why a session failed. -/
inductive SessionError where
  /-- The program could not be read or does not fit. -/
  | load (cause : LoadError)
  /-- There is no window. -/
  | window (cause : WindowError)
  /-- The program is at fault. -/
  | machine (cause : Fault)
  deriving DecidableEq, Repr

namespace SessionError

/-- The wording of a failure. -/
def message : SessionError → String
  | .load cause => cause.message
  | .window _ => "unable to open window"
  | .machine cause => cause.message

/-- The wording of what is behind a failure, if something is. -/
def cause? : SessionError → Option String
  | .load (.unreadable _ cause) => some cause
  | .load (.outOfSpace _ _ _) => none
  | .window cause => some cause.message
  | .machine _ => none

/-- The text that tells the user about a failure. -/
def report (error : SessionError) : String :=
  "Error: " ++ error.message ++
    match error.cause? with
    | none => ""
    | some cause => "\n\nCaused by:\n    " ++ cause

end SessionError

/-- How a session came to its end. -/
inductive Ending where
  /-- The user ended it. -/
  | finished
  /-- It failed. -/
  | failed (error : SessionError)
  /-- A contract was broken. -/
  | aborted (breach : Breach)
  /-- It was broken off. -/
  | unfinished
  deriving DecidableEq, Repr

/-- The number that a session leaves to the system. -/
def Ending.exitCode : Ending → UInt32
  | .finished | .unfinished => 0
  | .failed _ => 1
  | .aborted _ => 101

/-- What is left of a session. -/
structure Report (η σ : Type) where
  /-- What was reported, in order. -/
  journal : List LogRecord
  /-- How it ended. -/
  ending : Ending
  /-- The window, if there was one. -/
  window : Option η
  /-- The stream of the beeper, if there was one. -/
  stream : Option σ

namespace Session

/-- The machine of a session. -/
abbrev Runner (τ η ρ σ : Type) : Type := Machine τ (WindowDisplay η) ρ (Option (Beeper σ))

/-- The text above the window. It names the file of the program. -/
def title (romPath : String) : String :=
  s!"chipvm - {(fileName? romPath).getD romPath} - ESC to exit"

variable {τ η ρ σ : Type} [Seconds τ] [Host η] [LoopClock η] [RandomSource ρ] [AudioStream σ]

/-- Connect a beeper, or go on in silence if there is no sound. -/
def attachSound (machine : Runner τ η ρ σ) (device : Option (OutputDevice σ)) :
    Runner τ η ρ σ :=
  match Beeper.openOn device with
  | (records, .ok beeper) => (machine.recordAll records).withBuzzer (some beeper)
  | (records, .error cause) => (machine.recordAll records).record (.withoutSound cause)

/-- Read the clock of the loop. -/
def readClock (machine : Runner τ η ρ σ) : Nat × Runner τ η ρ σ :=
  let (now, host) := LoopClock.readLoopClock machine.display.host
  (now, { machine with display := { machine.display with host } })

/-- One turn of the loop: the time since the previous reading of the clock passes
for the machine. Also gives the new reading. -/
def turn (machine : Runner τ η ρ σ) (previous : Nat) :
    Nat × Runner τ η ρ σ × Except Stop Bool :=
  let (now, machine) := readClock machine
  (now, machine.cycle (Seconds.ofNanoseconds (now - previous)))

/-- Run the loop for at most so many turns. -/
def loop (machine : Runner τ η ρ σ) (previous : Nat) : Nat → Runner τ η ρ σ × Ending
  | 0 => (machine, if machine.shouldTerminate then .finished else .unfinished)
  | turns + 1 =>
      if machine.shouldTerminate then (machine, .finished)
      else
        match turn machine previous with
        | (now, machine, .ok _) => loop machine now turns
        | (_, machine, .error (.fault fault)) =>
            (machine.record (.halted machine.registers.pc fault), .failed (.machine fault))
        | (_, machine, .error (.breach breach)) => (machine, .aborted breach)

/-- Put a program into memory, connect a beeper unless it is to be mute, and run. -/
def play (machine : Runner τ η ρ σ) (rom : List UInt8)
    (device : Option (OutputDevice σ)) (mute : Bool) (turns : Nat) :
    Runner τ η ρ σ × Ending :=
  match machine.loadRom rom with
  | (machine, .error error) => (machine, .failed (.load error))
  | (machine, .ok ()) =>
      let machine := if mute then machine else attachSound machine device
      let (previous, machine) := readClock machine
      loop machine previous turns

/-- A whole session, with a loop of at most so many turns. Time is kept in `τ`. -/
def run (τ : Type) [Seconds τ] (environment : Environment η ρ σ)
    (arguments : CommandLine.Arguments) (turns : Nat) : Report η σ :=
  match readRom environment.readFile arguments.rom with
  | .error cause => withoutWindow (.failed (.load cause))
  | .ok rom =>
      match environment.openWindow ⟨title arguments.rom, arguments.scale⟩ with
      | .error cause => withoutWindow (.failed (.window cause))
      | .ok host =>
          let (display, opened) := WindowDisplay.openOn host arguments.refreshRate
          match Machine.start arguments.config display environment.random none with
          | .error breach =>
              { journal := opened, ending := .aborted breach, window := some host,
                stream := none }
          | .ok (machine : Runner τ η ρ σ) =>
              let (machine, ending) :=
                play (machine.recordAll opened) rom environment.device arguments.mute turns
              { journal := machine.journal.toList
                ending
                window := some machine.display.host
                stream := machine.buzzer.map (·.stream) }
where
  /-- A session that ended before there was a window. -/
  withoutWindow (ending : Ending) : Report η σ :=
    { journal := [], ending, window := none, stream := none }

end Session

end Chip8
