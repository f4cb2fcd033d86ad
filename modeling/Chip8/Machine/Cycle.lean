/-
# Running a machine

`tick` fetches, decodes and executes one instruction. `cycle` is what an outer
loop calls with the time that has gone by: it lets the timers run, tells the
buzzer, and runs at most one instruction, once a whole period has accumulated.
What has accumulated beyond a period is kept for later calls, so a loop that
falls behind catches up one instruction a call.

After an instruction that succeeded the screen is shown and the keys are read;
after one that stopped, neither.
-/

import Chip8.Instruction.Decode
import Chip8.Machine.Execute

namespace Chip8.Machine

variable {τ δ ρ β : Type} [Seconds τ] [Display δ] [RandomSource ρ] [Buzzer β]

/-- Fetch the instruction at the program counter and move the counter behind it. -/
def fetchDecode (machine : Machine τ δ ρ β) : Machine τ δ ρ β × Except Stop Instruction :=
  let pc := machine.registers.pc
  match machine.memory.fetch pc with
  | .error fault => (machine, .error (.fault fault))
  | .ok op =>
      let instruction := Instruction.decode op
      ({ machine with registers := machine.registers.advance }.record
        (.fetched pc op instruction), .ok instruction)

/-- Run one instruction; the answer is which one it was. -/
def tick (machine : Machine τ δ ρ β) : Machine τ δ ρ β × Except Stop Instruction :=
  match machine.fetchDecode with
  | (machine, .error stop) => (machine, .error stop)
  | (machine, .ok instruction) =>
      let (machine, result) := machine.execute instruction
      (machine, result.map fun _ => instruction)

/-- Let time pass for the timers, and tell the buzzer whether the sound timer still
runs. -/
def passTime (machine : Machine τ δ ρ β) (elapsed : τ) : Machine τ δ ρ β :=
  let registers := machine.registers.decayTimers elapsed
  let (buzzer, records) := Buzzer.setActive machine.buzzer registers.sound.isActive
  { machine with
    backlog := machine.backlog + elapsed
    registers
    buzzer }.recordAll records

/-- Show the screen, then read the keys. -/
def refresh (machine : Machine τ δ ρ β) : Machine τ δ ρ β :=
  let (display, records) := Display.presentFrame machine.display
  { machine with display := Display.pollInput display }.recordAll records

/-- Let `elapsed` seconds pass. The answer is whether an instruction ran. -/
def cycle (machine : Machine τ δ ρ β) (elapsed : τ) : Machine τ δ ρ β × Except Stop Bool :=
  let machine := machine.passTime elapsed
  if Seconds.less machine.backlog machine.period then (machine, .ok false)
  else
    match { machine with backlog := machine.backlog - machine.period }.tick with
    | (machine, .error stop) => (machine, .error stop)
    | (machine, .ok _) => (machine.refresh, .ok true)

end Chip8.Machine
