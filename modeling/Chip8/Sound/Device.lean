/-
# Sound devices

What an output device of the host says about itself, and how it can fail: it
went away, or its driver reports trouble in words of its own. The host words the
first kind differently when it is met while starting or halting a stream.
-/

namespace Chip8

/-- How a device represents one sample. -/
inductive SampleFormat where
  | i8 | i16 | i32 | i64
  | u8 | u16 | u32 | u64
  | f32 | f64
  deriving DecidableEq, Repr

namespace SampleFormat

/-- The name of a format. -/
def name : SampleFormat → String
  | .i8 => "i8"
  | .i16 => "i16"
  | .i32 => "i32"
  | .i64 => "i64"
  | .u8 => "u8"
  | .u16 => "u16"
  | .u32 => "u32"
  | .u64 => "u64"
  | .f32 => "f32"
  | .f64 => "f64"

/-- All formats. -/
def all : List SampleFormat := [.i8, .i16, .i32, .i64, .u8, .u16, .u32, .u64, .f32, .f64]

/-- The format of a name. -/
def ofName? (name : String) : Option SampleFormat :=
  all.find? fun format => format.name == name

end SampleFormat

/-- The samples that a device asks for. -/
structure StreamConfig where
  /-- The representation of a sample. -/
  format : SampleFormat
  /-- Samples that are played at the same time. -/
  channels : Nat
  /-- Frames of such samples in a second. -/
  rate : UInt32
  deriving DecidableEq, Repr

/-- Trouble with a device. -/
inductive DeviceError where
  /-- The device is gone. -/
  | unavailable
  /-- The driver's own description. -/
  | backend (description : String)
  deriving DecidableEq, Repr

namespace DeviceError

/-- The wording of trouble that the driver describes. -/
def backendMessage (description : String) : String :=
  "A backend-specific error has occurred: " ++ description

/-- The wording of trouble with a device or with a stream that is running. -/
def message : DeviceError → String
  | .unavailable =>
      "The requested device is no longer available. For example, it has been unplugged."
  | .backend description => backendMessage description

/-- The wording of trouble while a stream is started or halted. -/
def toggleMessage : DeviceError → String
  | .unavailable => "the device associated with the stream is no longer available"
  | .backend description => backendMessage description

end DeviceError

/-- Why there is no sound. -/
inductive SoundError where
  /-- The host has no output device. -/
  | noDevice
  /-- The device does not say what it wants. -/
  | config (cause : DeviceError)
  /-- The device gives no stream. -/
  | build (cause : DeviceError)
  deriving DecidableEq, Repr

/-- The wording of why there is no sound. -/
def SoundError.message : SoundError → String
  | .noDevice => "no audio output device available"
  | .config cause | .build cause => cause.message

end Chip8
