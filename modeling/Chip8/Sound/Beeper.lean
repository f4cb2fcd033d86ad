/-
# The beeper

A buzzer that plays a tone on an output device of the host while it is active.
The stream of the device is halted as soon as it is there. From then on the
beeper knows whether the stream plays, asks it to start or halt only if that
is not what it does already, and takes its word for it: a request that failed
leaves the beeper as it was, so that the next call tries again.
-/

import Chip8.Peripheral
import Chip8.Sound.Frames
import Chip8.Sound.Tone

namespace Chip8

/-- A stream of samples to a device. -/
class AudioStream (σ : Type) where
  /-- Start the stream. -/
  play : σ → σ × Except DeviceError Unit
  /-- Halt the stream. -/
  pause : σ → σ × Except DeviceError Unit

/-- An output device of the host. -/
structure OutputDevice (σ : Type) where
  /-- What the device asks for. -/
  config : Except DeviceError StreamConfig
  /-- Open a stream to the device. -/
  build : StreamConfig → Except DeviceError σ

/-- A buzzer on an output device. -/
structure Beeper (σ : Type) where
  /-- The stream to the device. -/
  stream : σ
  /-- Whether the stream plays. -/
  playing : Bool
  /-- What the device asks for. -/
  config : StreamConfig
  /-- The wave that the device is given. -/
  tone : Tone

namespace Beeper

variable {σ : Type}

/-- Open a stream to an output device, if there is one, and halt it. -/
def openOn [AudioStream σ] (device : Option (OutputDevice σ)) :
    List LogRecord × Except SoundError (Beeper σ) :=
  match device with
  | none => ([], .error .noDevice)
  | some device =>
      match device.config with
      | .error cause => ([], .error (.config cause))
      | .ok config =>
          let found := [LogRecord.audioOutput config]
          match device.build config with
          | .error cause => (found, .error (.build cause))
          | .ok stream =>
              let (stream, result) := AudioStream.pause stream
              let beeper : Beeper σ :=
                { stream, playing := false, config, tone := .start config.rate }
              match result with
              | .ok () => (found, .ok beeper)
              | .error cause => (found ++ [.pauseFailed cause], .ok beeper)

/-- Start or halt the stream, if it does not do already what is asked for. -/
def setActive [AudioStream σ] (beeper : Beeper σ) (active : Bool) :
    Beeper σ × List LogRecord :=
  if active = beeper.playing then (beeper, [])
  else
    let (stream, result) :=
      if active then AudioStream.play beeper.stream else AudioStream.pause beeper.stream
    match result with
    | .ok () => ({ beeper with stream, playing := active }, [])
    | .error cause => ({ beeper with stream }, [.toggleFailed cause])

instance [AudioStream σ] : Buzzer (Beeper σ) where
  setActive := setActive

/-- The samples that the device asks for, in one buffer. -/
def pull (beeper : Beeper σ) (length : Nat) : Except Breach (List Sample × Beeper σ) := do
  let (levels, tone) ← Frames.fill Tone.next beeper.config.channels beeper.tone length
  return (levels.map beeper.config.format.encode, { beeper with tone })

end Beeper

end Chip8
