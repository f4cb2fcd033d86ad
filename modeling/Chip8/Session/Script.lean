/-
# Scripted sessions

A session in a world that follows a script: a working directory of files, a
window that opens or not, a sound device or none, and what happens at each turn
of the loop. Such a session ends by itself, since the window closes when the
script is at its end.
-/

import Chip8.Display.Headless
import Chip8.Host.Script
import Chip8.Program
import Chip8.Sound.Script

namespace Chip8

/-- The world of a scripted session. -/
structure SessionScript where
  /-- The working directory. -/
  directory : Directory := {}
  /-- The host's description of why no window opens, if none does. -/
  windowError : Option WindowError := none
  /-- The output device for sound, if there is one. -/
  device : Option ScriptedDevice := none
  /-- What happens at each turn of the loop. -/
  turns : List Turn := []

namespace SessionScript

/-- The world that a script describes. All random bytes are zero. -/
def environment (script : SessionScript) :
    Environment ScriptedHost ByteCycle ScriptedStream where
  readFile := script.directory.read
  openWindow window :=
    match script.windowError with
    | some error => .error error
    | none => .ok { window, turns := script.turns }
  random := .ofBytes 0 []
  device := script.device.map ScriptedDevice.toDevice

/-- The turns of the script, and one more that closes the window. -/
def turnCount (script : SessionScript) : Nat := script.turns.length + 1

/-- What is left of the session with given arguments. -/
def run (script : SessionScript) (arguments : CommandLine.Arguments) :
    Report ScriptedHost ScriptedStream :=
  Session.run Float script.environment arguments script.turnCount

/-- What a user sees of the program on a given command line. -/
def runProgram (script : SessionScript) (logSetting : Option String)
    (commandLine : List String) : Output :=
  Program.run script.environment logSetting commandLine script.turnCount

end SessionScript

end Chip8
