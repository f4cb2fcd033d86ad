/-
# A scripted stream

A stream whose attempts to start and halt succeed or fail as a list says. It
writes down what it is asked for, and knows whether it plays.
-/

import Chip8.Sound.Beeper

namespace Chip8

/-- Something that a scripted stream was asked for. -/
inductive StreamCall where
  | build (config : StreamConfig)
  | play
  | pause
  deriving DecidableEq, Repr

/-- A stream that follows a script. -/
structure ScriptedStream where
  /-- The outcomes of coming attempts; after the last one all succeed. -/
  outcomes : List (Option DeviceError)
  /-- Whether the stream plays. -/
  playing : Bool
  /-- What it was asked for. -/
  calls : Array StreamCall
  deriving DecidableEq, Repr

namespace ScriptedStream

/-- An attempt to start or halt the stream. -/
def attempt (stream : ScriptedStream) (playing : Bool) :
    ScriptedStream × Except DeviceError Unit :=
  let called := { stream with
    outcomes := stream.outcomes.tail
    calls := stream.calls.push (if playing then .play else .pause) }
  match stream.outcomes.head?.join with
  | none => ({ called with playing }, .ok ())
  | some cause => (called, .error cause)

instance : AudioStream ScriptedStream where
  play stream := stream.attempt true
  pause stream := stream.attempt false

end ScriptedStream

/-- The trouble that a word of a script stands for. -/
def DeviceError.ofScript : String → DeviceError
  | "unavailable" => .unavailable
  | description => .backend description

/-- A device that follows a script. A new stream may already play. -/
structure ScriptedDevice where
  /-- What the device asks for. -/
  config : StreamConfig
  /-- The trouble met when the device is asked for its configuration. -/
  configError : Option DeviceError := none
  /-- The trouble met when a stream is opened. -/
  buildError : Option DeviceError := none
  /-- The outcomes of attempts to start and halt the stream. -/
  outcomes : List (Option DeviceError) := []
  deriving DecidableEq, Repr

/-- The device that a script describes. -/
def ScriptedDevice.toDevice (script : ScriptedDevice) : OutputDevice ScriptedStream where
  config :=
    match script.configError with
    | none => .ok script.config
    | some cause => .error cause
  build config :=
    match script.buildError with
    | none => .ok { outcomes := script.outcomes, playing := true, calls := #[.build config] }
    | some cause => .error cause

end Chip8
