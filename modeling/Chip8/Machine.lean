/-
# The machine

The whole state of a machine: registers, memory and call stack, what it is
connected to, the dialect it follows, its pace, and the journal of what it has
reported. The type is built over four others: in what time is kept, and the
states of the display, of the source of random bytes and of the buzzer.

Operations that can stop return the machine together with their answer, since a
stopped machine still has a state. `commit` is the way in which nearly all of
them are written: either the whole of an operation happens, or nothing of it.
-/

import Chip8.CallStack
import Chip8.Config
import Chip8.Peripheral
import Chip8.Registers

namespace Chip8

/-- A machine and everything that it is connected to. -/
structure Machine (τ δ ρ β : Type) where
  /-- V0 to VF, the program counter, I and the timers. -/
  registers : Registers τ
  /-- The bytes of the program and its data. -/
  memory : Memory
  /-- The active subroutines. -/
  stack : CallStack
  /-- The screen and the keys. -/
  display : δ
  /-- Where random bytes come from. -/
  random : ρ
  /-- What sounds while the sound timer runs. -/
  buzzer : β
  /-- The readings of ambiguous instructions. -/
  dialect : Dialect
  /-- The time that one instruction takes. -/
  period : τ
  /-- The time that has gone by and has not been spent on an instruction. -/
  backlog : τ
  /-- The key that went down while an instruction waits for it to come up. -/
  awaitedKey : Option UInt8
  /-- What has been reported, in order. -/
  journal : Array LogRecord

namespace Machine

variable {τ δ ρ β : Type}

/-- A machine that has not started, without a program. -/
def start [Seconds τ] (config : Config) (display : δ) (random : ρ) (buzzer : β) :
    Except Breach (Machine τ δ ρ β) := do
  let memory ← Memory.ofCapacity config.memorySize
  return {
    registers := .start
    memory
    stack := .empty CallStack.machineDepth
    display
    random
    buzzer
    dialect := config.dialect
    period := config.instructionPeriod
    backlog := Seconds.ofNat 0
    awaitedKey := none
    journal := #[] }

/-- The machine connected to another buzzer. -/
def withBuzzer {β' : Type} (machine : Machine τ δ ρ β) (buzzer : β') : Machine τ δ ρ β' :=
  { machine with buzzer }

/-- Write one event into the journal. -/
def record (machine : Machine τ δ ρ β) (event : LogRecord) : Machine τ δ ρ β :=
  { machine with journal := machine.journal.push event }

/-- Write several events into the journal. -/
def recordAll (machine : Machine τ δ ρ β) (events : List LogRecord) : Machine τ δ ρ β :=
  { machine with journal := machine.journal ++ events }

/-- Put a program into memory. A program that is too long changes nothing. -/
def loadRom (machine : Machine τ δ ρ β) (rom : List UInt8) :
    Machine τ δ ρ β × Except LoadError Unit :=
  match machine.memory.loadRom rom with
  | .ok memory => ({ machine with memory }.record (.romLoaded rom.length), .ok ())
  | .error error => (machine, .error error)

/-- The result of an operation, or the machine as it was if the operation stopped. -/
def commit (machine : Machine τ δ ρ β) (result : Except Stop (Machine τ δ ρ β)) :
    Machine τ δ ρ β × Except Stop Unit :=
  match result with
  | .ok after => (after, .ok ())
  | .error stop => (machine, .error stop)

/-- An operation on the register file alone. -/
def commitRegisters (machine : Machine τ δ ρ β) (result : Except Stop (Registers τ)) :
    Machine τ δ ρ β × Except Stop Unit :=
  machine.commit (result.map fun registers => { machine with registers })

/-- Whether the user wants to stop. -/
def shouldTerminate [Display δ] (machine : Machine τ δ ρ β) : Bool :=
  Display.shouldTerminate machine.display

end Machine

end Chip8
