/-
# The command

The program on a host without a window system and without sound. It reads its
command line and the file of the program as anywhere else, and then has to say
that it can open no window.
-/

import Chip8.Program
import Chip8.Random

namespace Chip8

/-- There is no window on this host. -/
instance : Host Empty where
  readClock := nofun
  pump := nofun
  showFrame := nofun
  pressedKeys := nofun
  releasedKeys := nofun
  isOpen := nofun
  isKeyDown := nofun

/-- There is no window on this host, and no loop around one. -/
instance : LoopClock Empty where
  readLoopClock := nofun

/-- There is no sound on this host. -/
instance : AudioStream Empty where
  play := nofun
  pause := nofun

/-- A number of the system, which may be reported as its negative. -/
def systemNumber (number : UInt32) : Nat :=
  (if number < 0x80000000 then number else 0 - number).toNat

/-- What went wrong with a file, by the system's number and description. -/
def systemError : IO.Error → SystemError
  | .noFileOrDirectory _ number description
  | .alreadyExists _ number description
  | .otherError number description
  | .resourceBusy number description
  | .resourceVanished number description
  | .unsupportedOperation number description
  | .hardwareFault number description
  | .unsatisfiedConstraints number description
  | .illegalOperation number description
  | .protocolError number description
  | .timeExpired number description
  | .interrupted _ number description
  | .invalidArgument _ number description
  | .permissionDenied _ number description
  | .resourceExhausted _ number description
  | .inappropriateType _ number description
  | .noSuchThing _ number description => .ofNumber (systemNumber number) description
  | .unexpectedEof => .other 5 "Input/output error"
  | .userError description => .other 5 description

/-- The bytes of a file of the system. -/
def readFile (path : String) : IO (Except SystemError (List UInt8)) := do
  match ← (IO.FS.readBinFile path).toBaseIO with
  | .ok bytes => return .ok bytes.toList
  | .error error => return .error (systemError error)

/-- What the program leaves behind on this host. -/
def runCommand (logSetting : Option String) (commandLine : List String) : IO Output := do
  match CommandLine.parse commandLine with
  | .error error => return error.output logSetting
  | .ok arguments =>
      let contents ← readFile arguments.rom
      let environment : Environment Empty StdGen Empty := {
        readFile := fun _ => contents
        openWindow := fun _ => .error ⟨"no window system"⟩
        random := mkStdGen
        device := none }
      return Program.run environment logSetting commandLine 0

end Chip8

/-- Run the program. -/
def main (commandLine : List String) : IO UInt32 := do
  let output ← Chip8.runCommand none commandLine
  for line in output.standardOutput do
    IO.println line
  for line in output.standardError do
    IO.eprintln line.text
  return output.exitCode
