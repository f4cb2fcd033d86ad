/-
# The log

What a running machine and its surroundings report. A record is kept as the
event itself; its severity, the part of the program that it comes from, and its
wording are functions of the event. So a run can be asked what happened in
which order without looking at text.

A wording may hold text of the host, which may have any characters in it. When a
record is written, what follows a line break is indented, and escape sequences and
other controls are taken out.
-/

import Chip8.Instruction.Text
import Chip8.Sound.Device
import Chip8.Text.Terminal

namespace Chip8

open Text

/-- How much a record matters; the first matters most. -/
inductive Severity where
  | error | warn | info | debug | trace
  deriving DecidableEq, Repr

namespace Severity

/-- The place in the order, counted from the severest. -/
def rank : Severity → Nat
  | .error => 1
  | .warn => 2
  | .info => 3
  | .debug => 4
  | .trace => 5

/-- The name of a severity. -/
def name : Severity → String
  | .error => "ERROR"
  | .warn => "WARN"
  | .info => "INFO"
  | .debug => "DEBUG"
  | .trace => "TRACE"

/-- All severities. -/
def all : List Severity := [.error, .warn, .info, .debug, .trace]

end Severity

/-- An event that is worth reporting. -/
inductive LogRecord where
  /-- A word was fetched and decoded; the address is the one it was fetched from. -/
  | fetched (address : UInt16) (op : Opcode) (instruction : Instruction)
  /-- A word at an address means nothing. -/
  | unknownWord (op : Opcode) (address : UInt16)
  /-- A program was put into memory. -/
  | romLoaded (length : Nat)
  /-- The instruction that waits for a key saw one go down. -/
  | keyLatched (key : UInt8)
  /-- The instruction that waits for a key saw that key come up. -/
  | keyResolved (key : UInt8)
  /-- The window is open. -/
  | windowOpened (refreshRate : UInt32)
  /-- The window did not take a frame. -/
  | updateFailed
  /-- A sound device was found. -/
  | audioOutput (config : StreamConfig)
  /-- A new stream could not be halted. -/
  | pauseFailed (cause : DeviceError)
  /-- The stream could not be started or halted. -/
  | toggleFailed (cause : DeviceError)
  /-- The device reports trouble with the stream. -/
  | streamError (cause : DeviceError)
  /-- The session goes on in silence. -/
  | withoutSound (cause : SoundError)
  /-- The machine met a fault; the address is that of the program counter. -/
  | halted (address : UInt16) (fault : Fault)
  deriving DecidableEq, Repr

namespace LogRecord

/-- How much an event matters. -/
def severity : LogRecord → Severity
  | .fetched .. => .trace
  | .unknownWord .. => .warn
  | .romLoaded _ => .debug
  | .keyLatched _ => .debug
  | .keyResolved _ => .debug
  | .windowOpened _ => .debug
  | .updateFailed => .error
  | .audioOutput _ => .debug
  | .pauseFailed _ => .warn
  | .toggleFailed _ => .warn
  | .streamError _ => .warn
  | .withoutSound _ => .warn
  | .halted .. => .error

/-- The wording of an event. -/
def text : LogRecord → String
  | .fetched pc op instruction => s!"{address pc.toNat}: {op.text} {instruction.text}"
  | .unknownWord op pc => s!"unknown instruction {op.text} at {address pc.toNat}"
  | .romLoaded length => s!"loaded {length} byte ROM at 0x200"
  | .keyLatched key => s!"FX0A latched key {upperHex key.toNat}"
  | .keyResolved key => s!"FX0A resolved with key {upperHex key.toNat}"
  | .windowOpened refreshRate => s!"opened 64x32 window at {refreshRate} Hz"
  | .updateFailed => "window update failed: Failed to Update"
  | .audioOutput config =>
      s!"audio output at {config.rate} Hz, {config.channels} channel(s), {config.format.name}"
  | .pauseFailed cause => s!"unable to pause audio stream: {cause.toggleMessage}"
  | .toggleFailed cause => s!"unable to toggle buzzer: {cause.toggleMessage}"
  | .streamError cause => s!"an error occurred on the audio stream: {cause.message}"
  | .withoutSound cause => s!"running without sound: {cause.message}"
  | .halted pc fault => s!"machine halted at {address pc.toNat}: {fault.message}"

/-- A record as a line: its severity and its wording. -/
def line (record : LogRecord) : String :=
  record.severity.name ++ " " ++ record.text

/-- A text with four spaces behind each line break. -/
def indented (text : String) : String :=
  String.ofList (text.toList.flatMap fun c =>
    if c == '\n' then '\n' :: List.replicate 4 ' ' else [c])

/-- What is written of a record. -/
def written (record : LogRecord) : String := streamed (indented record.line ++ "\n")

end LogRecord

end Chip8
