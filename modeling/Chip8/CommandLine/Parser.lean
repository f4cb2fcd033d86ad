/-
# Reading a command line

Arguments are read from left to right. A setting may have its value in the next
argument, so a setting and its value are first put aside and only settled
when the next option or path, or the end, is reached; the path of the program
is put aside in the same way. What is wrong with something that was put aside is
therefore found after what is wrong with the form of the argument behind it.

Settling a setting asks, in this order: is there a value, was the setting
there before, and does the value mean something.
-/

import Chip8.CommandLine.Token
import Chip8.CommandLine.UsageError

namespace Chip8.CommandLine

/-- What has been settled. -/
structure Given where
  /-- The path of the program. -/
  rom : Option String := none
  /-- The value of the setting `ips`. -/
  ips : Option UInt32 := none
  /-- The value of the setting `scale`. -/
  scale : Option WindowScale := none
  /-- The value of the setting `refresh-rate`. -/
  refreshRate : Option UInt32 := none
  /-- Whether the switch `legacy-shift` was there. -/
  legacyShift : Bool := false
  /-- Whether the switch `modern-jump` was there. -/
  modernJump : Bool := false
  /-- Whether the switch `mute` was there. -/
  mute : Bool := false
  deriving DecidableEq, Repr

/-- The number that a text gives for a setting. -/
def parseNumber (setting : Setting) (value : String) : Except UsageError UInt32 :=
  match Text.parseInteger value with
  | .error cause => .error (.noNumber setting value (.integer cause))
  | .ok number =>
      if 0 ≤ number ∧ number < 0x100000000 then .ok (.ofNat number.toNat)
      else .error (.noNumber setting value (.outOfRange number))

/-- The scale that a text gives. -/
def parseScale (value : String) : Except UsageError WindowScale :=
  match WindowScale.ofValue? value with
  | some scale => .ok scale
  | none => .error (.noScale value)

namespace Given

/-- Whether a setting has its value. -/
def has (given : Given) : Setting → Bool
  | .ips => given.ips.isSome
  | .scale => given.scale.isSome
  | .refreshRate => given.refreshRate.isSome

/-- Whether a switch is on. -/
def isOn (given : Given) : Switch → Bool
  | .legacyShift => given.legacyShift
  | .modernJump => given.modernJump
  | .mute => given.mute

/-- Give a setting its value. -/
def set (given : Given) (setting : Setting) (value : String) : Except UsageError Given := do
  if given.has setting then throw (.repeated (.setting setting))
  match setting with
  | .ips => return { given with ips := some (← parseNumber .ips value) }
  | .scale => return { given with scale := some (← parseScale value) }
  | .refreshRate => return { given with refreshRate := some (← parseNumber .refreshRate value) }

/-- Turn a switch on. -/
def turnOn (given : Given) (switch : Switch) : Except UsageError Given := do
  if given.isOn switch then throw (.repeated (.switch switch))
  match switch with
  | .legacyShift => return { given with legacyShift := true }
  | .modernJump => return { given with modernJump := true }
  | .mute => return { given with mute := true }

/-- Give the path. -/
def setRom (given : Given) (path : String) : Except UsageError Given :=
  if path.isEmpty then .error .emptyRom else .ok { given with rom := some path }

/-- All values, those that are missing at their defaults. The path has none. -/
def arguments (given : Given) : Except UsageError Arguments :=
  match given.rom with
  | none => .error .missingRom
  | some rom =>
      let defaults : Arguments := { rom }
      .ok { defaults with
        ips := given.ips.getD defaults.ips
        legacyShift := given.legacyShift
        modernJump := given.modernJump
        scale := given.scale.getD defaults.scale
        refreshRate := given.refreshRate.getD defaults.refreshRate
        mute := given.mute }

end Given

/-- What has been put aside. -/
inductive Pending where
  /-- A setting, with its value if that has been read. -/
  | setting (setting : Setting) (value : Option String)
  /-- The path. -/
  | rom (path : String)
  deriving DecidableEq, Repr

/-- How far reading has come. -/
structure Reading where
  /-- What has been settled. -/
  given : Given := {}
  /-- What has been put aside. -/
  pending : Option Pending := none
  /-- Whether there was a path. -/
  romSeen : Bool := false
  /-- Whether the options have ended. -/
  optionsEnded : Bool := false
  deriving DecidableEq, Repr

namespace Reading

/-- Settle what has been put aside. -/
def settle (reading : Reading) : Except UsageError Given :=
  match reading.pending with
  | none => .ok reading.given
  | some (.setting setting none) => .error (.missingValue setting)
  | some (.setting setting (some value)) => reading.given.set setting value
  | some (.rom path) => reading.given.setRom path

/-- Settle what has been put aside, and then something else. -/
def settleThen (reading : Reading) (next : Given → Except UsageError Given) :
    Except UsageError Reading := do
  return { reading with given := ← next (← reading.settle), pending := none }

/-- Settle what has been put aside, and put something else aside. -/
def putAside (reading : Reading) (pending : Pending) : Except UsageError Reading := do
  return { reading with given := ← reading.settle, pending := some pending }

/-- A setting whose value may be part of the same argument. -/
def readSetting (reading : Reading) (setting : Setting) :
    Option String → Except UsageError Reading
  | some value => reading.settleThen (·.set setting value)
  | none => reading.putAside (.setting setting none)

/-- A request for a text. -/
def readNotice (reading : Reading) (notice : Notice) : Except UsageError Reading :=
  reading.settleThen fun _ => .error (.notice notice)

/-- An option by name. -/
def readLong (reading : Reading) (name : String) (value : Option String) :
    Except UsageError Reading :=
  match LongOption.ofName? name, value with
  | none, _ => .error (.unknownArgument ("--" ++ name))
  | some (.setting setting), _ => reading.readSetting setting value
  | some option, some value => .error (.needlessValue option value)
  | some (.switch switch), none => reading.settleThen (·.turnOn switch)
  | some (.notice notice), none => reading.readNotice notice

/-- An option by letter. An equals sign between a letter and its value is dropped. -/
def readShort (reading : Reading) (letter : Char) (rest : List Char) :
    Except UsageError Reading :=
  match letter, rest with
  | 's', [] => reading.readSetting .scale none
  | 's', '=' :: value => reading.readSetting .scale (some (String.ofList value))
  | 's', value => reading.readSetting .scale (some (String.ofList value))
  | 'h', _ => reading.readNotice .help
  | 'V', _ => reading.readNotice .version
  | _, _ => .error (.unknownArgument (String.ofList ['-', letter]))

/-- A path. Only one is taken. -/
def readRom (reading : Reading) (path : String) : Except UsageError Reading :=
  if reading.romSeen then .error (.unknownArgument path)
  else { reading with romSeen := true }.putAside (.rom path)

/-- Plain text is the value of a setting that waits for one, and else a path. -/
def readPlain (reading : Reading) (text : String) : Except UsageError Reading :=
  match reading.pending with
  | some (.setting setting none) =>
      .ok { reading with pending := some (.setting setting (some text)) }
  | _ => reading.readRom text

/-- Read one argument. -/
def read (reading : Reading) (argument : String) : Except UsageError Reading :=
  if reading.optionsEnded then reading.readRom argument
  else
    match Token.ofArgument argument with
    | .endOfOptions => .ok { reading with optionsEnded := true }
    | .long name value => reading.readLong name value
    | .short letter rest => reading.readShort letter rest
    | .plain text => reading.readPlain text

end Reading

/-- The values that a command line gives. -/
def parse (commandLine : List String) : Except UsageError Arguments := do
  let reading ← commandLine.foldlM Reading.read {}
  (← reading.settle).arguments

end Chip8.CommandLine
