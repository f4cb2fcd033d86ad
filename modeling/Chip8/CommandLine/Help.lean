/-
# Texts for the user

The help and version texts, and the lines below the first one of an error.
-/

import Chip8.CommandLine.UsageError

namespace Chip8.CommandLine

/-- What the program is. -/
def about : String := "CHIP-8 interpreter"

/-- The name of the program and its version. -/
def versionText : String := "chipvm 0.1.0"

/-- How the program is called. -/
def usageText : String := "Usage: chipvm [OPTIONS] <ROM>"

/-- The lines of the help text. -/
def helpLines : List String := [
  about,
  "",
  usageText,
  "",
  "Arguments:",
  "  <ROM>  Path to the ROM file to run",
  "",
  "Options:",
  "      --ips <IPS>                    Instructions per second [default: 500]",
  "      --legacy-shift                 8XY6/8XYE shift VY into VX",
  "      --modern-jump                  BNNN jumps to NNN + VX instead of NNN + V0",
  "  -s, --scale <SCALE>                Window scale factor [default: 16] " ++
    "[possible values: 1, 2, 4, 8, 16, 32]",
  "      --refresh-rate <REFRESH_RATE>  Window refresh rate in Hz [default: 60]",
  "      --mute                         Disable the buzzer",
  "  -h, --help                         Print help",
  "  -V, --version                      Print version"]

/-- The lines of a notice. -/
def Notice.lines : Notice → List String
  | .help => helpLines
  | .version => [versionText]

end Chip8.CommandLine
