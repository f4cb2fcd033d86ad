/-
# The keypad

Sixteen keys that are up or down. A caller may press and release them one by
one, naming a key by a byte; a number above fifteen is a breach. The host
reports its keys in batches: first those that went down, then those that came
up, so that within one batch a release wins over a press of the same key.
-/

import Chip8.Fault
import Chip8.Keypad.HostKey

namespace Chip8

/-- The keys of a machine. -/
structure Keypad where
  /-- Whether each key is down. -/
  keys : Vector Bool 16
  deriving DecidableEq, Repr

/-- Host keys that went down and host keys that came up since the last report. -/
structure KeyBatch where
  /-- Keys that went down. -/
  pressed : List HostKey
  /-- Keys that came up. -/
  released : List HostKey
  deriving DecidableEq, Repr

namespace Keypad

/-- A keypad with no key down. -/
def allUp : Keypad := ⟨Vector.replicate 16 false⟩

/-- The key that a number names. -/
def key (number : UInt8) : Except Breach (Fin 16) :=
  if inside : number.toNat < 16 then .ok ⟨number.toNat, inside⟩
  else .error (.noKey number)

/-- Put a key down or up. -/
def put (keypad : Keypad) (key : Fin 16) (down : Bool) : Keypad :=
  ⟨keypad.keys.set key down⟩

/-- Put a key down. -/
def press (keypad : Keypad) (number : UInt8) : Except Breach Keypad := do
  return keypad.put (← key number) true

/-- Put a key up. -/
def release (keypad : Keypad) (number : UInt8) : Except Breach Keypad := do
  return keypad.put (← key number) false

/-- Whether a key is down. -/
def isPressed (keypad : Keypad) (number : UInt8) : Except Breach Bool := do
  return keypad.keys.get (← key number)

/-- Put all keys down or up that some host keys stand for. -/
def putAll (keypad : Keypad) (hostKeys : List HostKey) (down : Bool) : Keypad :=
  (hostKeys.filterMap HostKey.hexKey?).foldl (·.put · down) keypad

/-- Take in a report of the host. -/
def update (keypad : Keypad) (batch : KeyBatch) : Keypad :=
  (keypad.putAll batch.pressed true).putAll batch.released false

/-- The keys that are down, in ascending order. -/
def down (keypad : Keypad) : List (Fin 16) :=
  (List.finRange 16).filter keypad.keys.get

end Keypad

end Chip8
