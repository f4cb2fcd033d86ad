/-
# What a command line says

The values that a session is started with, and the names of the options that
set them. There are three kinds of option: settings take a value, switches are
on if they are there, and notices ask for a text instead of a session.
-/

import Chip8.Config

namespace Chip8.CommandLine

/-- How many pixels of the host's screen a pixel of the machine is wide and high. -/
inductive WindowScale where
  | x1 | x2 | x4 | x8 | x16 | x32
  deriving DecidableEq, Repr

namespace WindowScale

/-- All scales. -/
def all : List WindowScale := [.x1, .x2, .x4, .x8, .x16, .x32]

/-- A scale as it is given. -/
def value : WindowScale → String
  | .x1 => "1"
  | .x2 => "2"
  | .x4 => "4"
  | .x8 => "8"
  | .x16 => "16"
  | .x32 => "32"

/-- The name of a scale. -/
def name (scale : WindowScale) : String := "X" ++ scale.value

/-- The scale that is given by a text. -/
def ofValue? (text : String) : Option WindowScale :=
  all.find? (·.value == text)

/-- The scale of a name. -/
def ofName? (text : String) : Option WindowScale :=
  all.find? (·.name == text)

end WindowScale

/-- The values that a session is started with. -/
structure Arguments where
  /-- The path of the program. -/
  rom : String
  /-- Instructions in a second. -/
  ips : UInt32 := 500
  /-- Whether shifts follow the older dialect. -/
  legacyShift : Bool := false
  /-- Whether offset jumps follow the newer dialect. -/
  modernJump : Bool := false
  /-- The size of the window. -/
  scale : WindowScale := .x16
  /-- How often the window is refreshed in a second. -/
  refreshRate : UInt32 := 60
  /-- Whether there is no buzzer. -/
  mute : Bool := false
  deriving DecidableEq, Repr

/-- The machine that a session needs. -/
def Arguments.config (arguments : Arguments) : Config where
  instructionsPerSecond := arguments.ips
  dialect := {
    legacyShift := arguments.legacyShift
    legacyJumpOffset := !arguments.modernJump }

/-- An option with a value. -/
inductive Setting where
  | ips | scale | refreshRate
  deriving DecidableEq, Repr

/-- An option without a value. -/
inductive Switch where
  | legacyShift | modernJump | mute
  deriving DecidableEq, Repr

/-- A text that a user can ask for. -/
inductive Notice where
  | help | version
  deriving DecidableEq, Repr

/-- Anything that follows two hyphens. -/
inductive LongOption where
  | setting (setting : Setting)
  | switch (switch : Switch)
  | notice (notice : Notice)
  deriving DecidableEq, Repr

namespace LongOption

/-- All options. -/
def all : List LongOption :=
  [.setting .ips, .switch .legacyShift, .switch .modernJump, .setting .scale,
    .setting .refreshRate, .switch .mute, .notice .help, .notice .version]

/-- The name of an option, without the hyphens. -/
def name : LongOption → String
  | .setting .ips => "ips"
  | .setting .scale => "scale"
  | .setting .refreshRate => "refresh-rate"
  | .switch .legacyShift => "legacy-shift"
  | .switch .modernJump => "modern-jump"
  | .switch .mute => "mute"
  | .notice .help => "help"
  | .notice .version => "version"

/-- The option of a name. -/
def ofName? (text : String) : Option LongOption :=
  all.find? (·.name == text)

/-- An option as error messages write it: with a mark for the value, if it takes one. -/
def usage (option : LongOption) : String :=
  "--" ++ option.name ++
    match option with
    | .setting .ips => " <IPS>"
    | .setting .scale => " <SCALE>"
    | .setting .refreshRate => " <REFRESH_RATE>"
    | .switch _ | .notice _ => ""

end LongOption

/-- The mark for the path of the program. -/
def romUsage : String := "<ROM>"

end Chip8.CommandLine
