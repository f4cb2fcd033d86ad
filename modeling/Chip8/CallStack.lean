/-
# The call stack

Return addresses of the active subroutines, the latest first. The stack has a
fixed depth; a call beyond it and a return from an empty stack are faults, and
neither changes the stack.
-/

import Chip8.Fault

namespace Chip8

/-- The subroutines that are active. -/
structure CallStack where
  /-- Return addresses, the latest first. -/
  addresses : List UInt16
  /-- How many subroutines may be active at once. -/
  depth : Nat
  deriving DecidableEq, Repr

namespace CallStack

/-- The depth that a machine has. -/
def machineDepth : Nat := 16

/-- A stack on which nothing lies. -/
def empty (depth : Nat) : CallStack := { addresses := [], depth }

/-- A stack on which nothing lies, if there can be room for so many addresses of two
bytes. -/
def ofDepth (depth : Nat) : Except Breach CallStack :=
  if tableLimit < 2 * depth then .error .tableTooLarge else .ok (empty depth)

/-- The number of active subroutines. -/
def size (stack : CallStack) : Nat := stack.addresses.length

/-- Whether no subroutine is active. -/
def isEmpty (stack : CallStack) : Bool := stack.addresses.isEmpty

/-- Enter a subroutine that will return to `address`. -/
def push (stack : CallStack) (address : UInt16) : Except Fault CallStack :=
  if stack.size = stack.depth then .error (.stackOverflow stack.depth)
  else .ok { stack with addresses := address :: stack.addresses }

/-- Leave the latest subroutine: where it returns to, and the remaining stack. -/
def pop (stack : CallStack) : Except Fault (UInt16 × CallStack) :=
  match stack.addresses with
  | [] => .error .stackUnderflow
  | address :: rest => .ok (address, { stack with addresses := rest })

end CallStack

end Chip8
