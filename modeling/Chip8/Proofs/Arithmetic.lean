/-
# Results and flags

What arithmetic writes is an equation between the values that were there before and two numbers,
the result and the flag. The flag stands for what the result has no room for: the carry of a sum,
the borrow of a difference, the bit that falls out of a shift. Since the result is a byte and the
flag a bit, the equation leaves no choice of either.

The operands are read before anything is written, and VF is written last. So the equations speak
of the values before the instruction, whichever registers coincide, and where the result would go
to VF there is the flag. Copying is apart: it writes no flag.
-/

import Chip8.Machine.Execute
import Chip8.Proofs.Assembly
import Chip8.Proofs.RegisterFile
import Mathlib.Data.Nat.Bitwise

namespace Chip8

/-- The result and the flag of an operation on the values of X and Y. Copying has no flag. -/
def AluOp.Yields (op : AluOp) (legacyShift : Bool) (x y result flag : Nat) : Prop :=
  let shifted := if legacyShift then y else x
  match op with
  | .copy => result = y
  | .or => result = x ||| y ∧ flag = 0
  | .and => result = x &&& y ∧ flag = 0
  | .xor => result = x ^^^ y ∧ flag = 0
  | .add => x + y = 256 * flag + result
  | .subtract => (x : Int) - y = result - 256 * (1 - flag)
  | .subtractFrom => (y : Int) - x = result - 256 * (1 - flag)
  | .shiftRight => shifted = 2 * result + flag
  | .shiftLeft => 2 * shifted = 256 * flag + result

namespace Registers

/-! ## Bytes -/

section Bytes

variable (left right operand : UInt8)

theorem sum_eq :
    left.toNat + right.toNat = 256 * (sum left right).2.toNat + (sum left right).1.toNat := by
  have hleft := left.toNat_lt
  have hright := right.toNat_lt
  simp only [sum, UInt8.toNat_add]
  by_cases carries : 255 < left.toNat + right.toNat
  · simp only [carries, decide_true, Bool.toNat_true]
    omega
  · simp only [carries, decide_false, Bool.toNat_false]
    omega

theorem difference_eq :
    (left.toNat : Int) - right.toNat =
      (difference left right).1.toNat - 256 * (1 - (difference left right).2.toNat) := by
  have hleft := left.toNat_lt
  have hright := right.toNat_lt
  simp only [difference, UInt8.toNat_sub, UInt8.le_iff_toNat_le]
  by_cases fits : right.toNat ≤ left.toNat
  · simp only [fits, decide_true, Bool.toNat_true]
    omega
  · simp only [fits, decide_false, Bool.toNat_false]
    omega

theorem halve_eq : operand.toNat = 2 * (halve operand).1.toNat + (halve operand).2.toNat := by
  have half : (halve operand).1.toNat = operand.toNat / 2 := UInt8.toNat_shiftRight operand 1
  have masked : (operand &&& 1).toNat = operand.toNat % 2 := Nat.and_one_is_mod operand.toNat
  have lost : (halve operand).2.toNat = operand.toNat % 2 := by
    rcases Nat.mod_two_eq_zero_or_one operand.toNat with even | odd
    · have dropped : operand &&& 1 = 0 := UInt8.toNat_inj.mp (masked.trans even)
      rw [halve, dropped, even]
      rfl
    · have dropped : operand &&& 1 = 1 := UInt8.toNat_inj.mp (masked.trans odd)
      rw [halve, dropped, odd]
      rfl
  omega

theorem double_eq :
    2 * operand.toNat = 256 * (double operand).2.toNat + (double operand).1.toNat := by
  have small := operand.toNat_lt
  have doubled : (double operand).1.toNat = 2 * operand.toNat % 256 := by
    have shifted : (double operand).1.toNat = operand.toNat <<< 1 % 256 :=
      UInt8.toNat_shiftLeft operand 1
    omega
  have masked : (operand &&& 0x80).toNat = operand.toNat / 128 * 128 := by
    have bit := Nat.and_two_pow operand.toNat 7
    rw [Nat.toNat_testBit, Nat.mod_eq_of_lt (by omega)] at bit
    exact bit
  have lost : (double operand).2.toNat = operand.toNat / 128 := by
    obtain low | high : operand.toNat / 128 = 0 ∨ operand.toNat / 128 = 1 := by omega
    · have dropped : operand &&& 0x80 = 0 := UInt8.toNat_inj.mp (by rw [masked, low]; rfl)
      rw [double, dropped, low]
      rfl
    · have dropped : operand &&& 0x80 = 0x80 := UInt8.toNat_inj.mp (by rw [masked, high]; rfl)
      rw [double, dropped, high]
      rfl
  omega

end Bytes

/-! ## Registers -/

variable {τ : Type} (registers : Registers τ)

/-- What an operation computes is what it should yield, and only copying has no flag. -/
theorem outcome_yields (legacyShift : Bool) (op : AluOp) (left right : UInt8) :
    ∃ flag, op.Yields legacyShift left.toNat right.toNat
        (outcome legacyShift op left right).1.toNat (Bool.toNat flag) ∧
      (outcome legacyShift op left right).2 = if op = .copy then none else some flag := by
  cases op with
  | copy => exact ⟨false, rfl, rfl⟩
  | or => exact ⟨false, ⟨UInt8.toNat_or left right, rfl⟩, rfl⟩
  | and => exact ⟨false, ⟨UInt8.toNat_and left right, rfl⟩, rfl⟩
  | xor => exact ⟨false, ⟨UInt8.toNat_xor left right, rfl⟩, rfl⟩
  | add => exact ⟨_, sum_eq left right, rfl⟩
  | subtract => exact ⟨_, difference_eq left right, rfl⟩
  | subtractFrom => exact ⟨_, difference_eq right left, rfl⟩
  | shiftRight => cases legacyShift <;> exact ⟨_, halve_eq _, rfl⟩
  | shiftLeft => cases legacyShift <;> exact ⟨_, double_eq _, rfl⟩

theorem place_ofNat (number : Fin 16) : place (.ofNat number.val) = number := by
  apply Fin.ext
  simp only [place, UInt8.toNat_ofNat']
  omega

/-- A place in the register file holds what was put there last. -/
theorem get_values_put (place other : Fin 16) (byte : UInt8) :
    (registers.put place byte).values.get other =
      if other = place then byte else registers.values.get other := by
  by_cases same : other = place
  · rw [if_pos same, same]
    exact Vector.getElem_setIfInBounds_self place.isLt
  · rw [if_neg same]
    exact Vector.getElem_setIfInBounds_ne other.isLt fun number => same (Fin.ext number.symm)

/-- Arithmetic writes nothing but values. -/
theorem compute_eq (legacyShift : Bool) (op : AluOp) (x y : UInt8) :
    registers.compute legacyShift op x y =
      { registers with values := (registers.compute legacyShift op x y).values } := by
  cases op <;> rfl

/-- The flag is where it was written last, and the result where no flag is. -/
theorem get_values_compute {legacyShift flag : Bool} {op : AluOp} {x y : UInt8}
    (written : (outcome legacyShift op (registers.value x) (registers.value y)).2 =
      if op = .copy then none else some flag) (other : Fin 16) :
    (registers.compute legacyShift op x y).values.get other =
      if op ≠ .copy ∧ other = flagRegister then flag.toUInt8
      else if other = place x then
        (outcome legacyShift op (registers.value x) (registers.value y)).1
      else registers.values.get other := by
  unfold compute
  rcases computed : outcome legacyShift op (registers.value x) (registers.value y) with
    ⟨result, flag?⟩
  rw [computed] at written
  by_cases copies : op = .copy
  · obtain rfl : flag? = none := written.trans (if_pos copies)
    rw [if_neg fun both => both.1 copies]
    exact registers.get_values_put _ _ _
  · obtain rfl : flag? = some flag := written.trans (if_neg copies)
    refine (get_values_put _ _ _ _).trans ?_
    rw [get_values_put]
    by_cases last : other = flagRegister
    · simp only [last, copies, ne_eq, not_false_eq_true, and_self, if_true]
    · simp only [last, and_false, if_false]

end Registers

namespace Machine

variable {τ δ ρ β : Type} [Seconds τ] [Display δ] [RandomSource ρ]

/-- Arithmetic on registers X and Y writes the result to X and then the flag to VF, unless it
copies; all else is as it was. -/
theorem arithmetic_writes_result_then_flag (machine : Machine τ δ ρ β) (op : AluOp)
    (x y : Fin 16) :
    let word : Opcode := ⟨.ofNat (0x8000 + 0x100 * x.val + 0x10 * y.val + op.digit)⟩
    let before := machine.registers.values
    ∃ (after : Vector UInt8 16) (result flag : Nat),
      machine.execute (.decode word) =
        ({ machine with registers := { machine.registers with values := after } }, .ok ()) ∧
      result ≤ 255 ∧ flag ≤ 1 ∧
      op.Yields machine.dialect.legacyShift (before.get x).toNat (before.get y).toNat result flag ∧
      ∀ place, (after.get place).toNat =
        if op ≠ .copy ∧ place = Registers.flagRegister then flag
        else if place = x then result
        else (before.get place).toNat := by
  intro word before
  let legacyShift := machine.dialect.legacyShift
  let computed := Registers.outcome legacyShift op (before.get x) (before.get y)
  obtain ⟨flag, yields, written⟩ :=
    Registers.outcome_yields legacyShift op (before.get x) (before.get y)
  have value_x : machine.registers.value (.ofNat x.val) = before.get x :=
    congrArg before.get (Registers.place_ofNat x)
  have value_y : machine.registers.value (.ofNat y.val) = before.get y :=
    congrArg before.get (Registers.place_ofNat y)
  rw [← value_x, ← value_y] at written
  have table := machine.registers.get_values_compute written
  rw [value_x, value_y, Registers.place_ofNat] at table
  let after := (machine.registers.compute legacyShift op (.ofNat x.val) (.ofNat y.val)).values
  refine ⟨after, computed.1.toNat, flag.toNat, ?executed, ?_, flag.toNat_le, yields, ?_⟩
  case executed =>
    have hx : (UInt8.ofNat x.val).toNat < 16 := by
      rw [UInt8.toNat_ofNat']
      omega
    have hy : (UInt8.ofNat y.val).toNat < 16 := by
      rw [UInt8.toNat_ofNat']
      omega
    have executed : machine.execute (.alu op (.ofNat x.val) (.ofNat y.val)) =
        machine.commitRegisters
          (.ok (machine.registers.compute legacyShift op (.ofNat x.val) (.ofNat y.val))) := by
      rw [execute, Registers.alu_of_lt _ hx hy]
      rfl
    rw [Instruction.decode_arithmetic, executed, Registers.compute_eq]
    rfl
  · exact Nat.le_of_lt_succ computed.1.toNat_lt
  · intro place
    rw [table]
    split
    · cases flag <;> rfl
    · split <;> rfl

end Machine

end Chip8
