/-
# The register file

A number below sixteen names a register, and then reading and writing it cannot
fail. `value` is what is read then, and `compute` is what arithmetic on two registers
amounts to: a pair of a result and a flag, written in this order.
-/

import Chip8.Machine.Alu
import Chip8.Proofs.Outcome
import Mathlib.Tactic.Common

namespace Chip8.Registers

variable {τ : Type} (registers : Registers τ) {number x y : UInt8}

/-! ## Access -/

/-- The place in the register file that a number names. Numbers that name none are
counted round. -/
def place (number : UInt8) : Fin 16 := ⟨number.toNat % 16, Nat.mod_lt _ (by decide)⟩

/-- The value of a register. -/
def value (number : UInt8) : UInt8 := registers.values.get (place number)

theorem slot_of_lt (small : number.toNat < 16) : slot number = .ok (place number) := by
  have counted : (⟨number.toNat, small⟩ : Fin 16) = place number :=
    Fin.ext (Nat.mod_eq_of_lt small).symm
  rw [slot, dif_pos small, counted]

theorem get_of_lt (small : number.toNat < 16) :
    registers.get number = .ok (registers.value number) := by
  rw [get, slot_of_lt small]
  rfl

theorem set_of_lt (small : number.toNat < 16) (byte : UInt8) :
    registers.set number byte = .ok (registers.put (place number) byte) := by
  rw [set, slot_of_lt small]
  rfl

theorem add_of_lt (small : number.toNat < 16) (byte : UInt8) :
    registers.add number byte =
      .ok (registers.put (place number) (registers.value number + byte)) := by
  rw [add, slot_of_lt small]
  rfl

/-- Only the registers that there are need the same values for all that is read to be the same. -/
theorem get_congr {registers registers' : Registers τ}
    (same : number.toNat < 16 → registers.value number = registers'.value number) :
    registers.get number = registers'.get number := by
  by_cases named : number.toNat < 16
  · rw [get_of_lt _ named, get_of_lt _ named, same named]
  · have refused : slot number = .error (.noRegister number) := dif_neg named
    rw [get, get, refused]
    rfl

/-- A register holds what was put there last. -/
theorem value_put_self (byte : UInt8) :
    (registers.put (place number) byte).value number = byte :=
  Vector.getElem_setIfInBounds_self (place number).isLt

/-- Putting a value into one register leaves the others alone. -/
theorem get_put_of_ne {other : UInt8} (small : other.toNat < 16) (ne : number ≠ other)
    (byte : UInt8) : (registers.put (place other) byte).get number = registers.get number := by
  apply get_congr
  intro named
  have apart : (place other).val ≠ (place number).val := by
    intro same
    simp only [place, Nat.mod_eq_of_lt small, Nat.mod_eq_of_lt named] at same
    exact ne (UInt8.toNat_inj.mp same.symm)
  exact Vector.getElem_setIfInBounds_ne (place number).isLt apart

/-- The flag is in VF. -/
theorem get_setFlag (flag : Bool) : (registers.setFlag flag).get 0xF = .ok flag.toUInt8 := by
  rw [get_of_lt _ (by decide), Except.ok.injEq]
  exact Vector.getElem_setIfInBounds_self (by decide)

theorem get_setFlag_of_ne (ne : number ≠ 0xF) (flag : Bool) :
    (registers.setFlag flag).get number = registers.get number :=
  registers.get_put_of_ne (by decide) ne _

/-! ## Arithmetic -/

/-- What arithmetic writes to register X, and to VF if it writes a flag, given the
values of X and Y. -/
def outcome (legacyShift : Bool) (op : AluOp) (left right : UInt8) : UInt8 × Option Bool :=
  let flagged (result : UInt8 × Bool) := (result.1, some result.2)
  match op with
  | .copy => (right, none)
  | .or => (left ||| right, some false)
  | .and => (left &&& right, some false)
  | .xor => (left ^^^ right, some false)
  | .add => flagged (sum left right)
  | .subtract => flagged (difference left right)
  | .subtractFrom => flagged (difference right left)
  | .shiftRight => flagged (halve (if legacyShift then right else left))
  | .shiftLeft => flagged (double (if legacyShift then right else left))

/-- The registers after arithmetic on X and Y. The flag is written last. -/
def compute (legacyShift : Bool) (op : AluOp) (x y : UInt8) : Registers τ :=
  match outcome legacyShift op (registers.value x) (registers.value y) with
  | (result, none) => registers.put (place x) result
  | (result, some flag) => (registers.put (place x) result).setFlag flag

/-- Arithmetic writes to register X, and to VF unless it copies. -/
theorem get_compute_of_ne {legacyShift : Bool} {op : AluOp} (small : x.toNat < 16)
    (ne : number ≠ x) (unflagged : op = .copy ∨ number ≠ 0xF) :
    (registers.compute legacyShift op x y).get number = registers.get number := by
  have kept (result : UInt8) :
      (registers.put (place x) result).get number = registers.get number :=
    registers.get_put_of_ne small ne result
  have flagged (result : UInt8) (flag : Bool) (apart : number ≠ 0xF) :
      ((registers.put (place x) result).setFlag flag).get number = registers.get number :=
    (get_setFlag_of_ne _ apart flag).trans (kept result)
  cases op with
  | copy => exact kept _
  | _ => exact flagged _ _ (unflagged.resolve_left (by simp))

theorem putWithFlag_of_lt (small : x.toNat < 16) (result : UInt8 × Bool) :
    registers.putWithFlag x result =
      .ok ((registers.put (place x) result.1).setFlag result.2) := by
  rw [putWithFlag, set_of_lt _ small]
  rfl

theorem combine_of_lt (hx : x.toNat < 16) (hy : y.toNat < 16)
    (operation : UInt8 → UInt8 → UInt8 × Bool) :
    registers.combine x y operation =
      registers.putWithFlag x (operation (registers.value x) (registers.value y)) := by
  rw [combine, get_of_lt _ hx, get_of_lt _ hy]
  rfl

/-- A shift reads the register that its dialect names. -/
theorem get_shiftSource (hx : x.toNat < 16) (hy : y.toNat < 16) (legacyShift : Bool) :
    registers.get (shiftSource legacyShift x y) =
      .ok (if legacyShift then registers.value y else registers.value x) := by
  cases legacyShift with
  | false => exact registers.get_of_lt hx
  | true => exact registers.get_of_lt hy

/-- Arithmetic on two registers that exist succeeds. -/
theorem alu_of_lt (hx : x.toNat < 16) (hy : y.toNat < 16) (legacyShift : Bool) (op : AluOp) :
    registers.alu legacyShift op x y = .ok (registers.compute legacyShift op x y) := by
  cases op with
  | copy =>
      rw [alu, get_of_lt _ hy, ok_bind, set_of_lt _ hx]
      rfl
  | shiftRight | shiftLeft =>
      rw [alu, get_shiftSource _ hx hy, ok_bind, putWithFlag_of_lt _ hx]
      rfl
  | or | and | xor | add | subtract | subtractFrom =>
      rw [alu, combine_of_lt _ hx hy, putWithFlag_of_lt _ hx]
      rfl

end Chip8.Registers
