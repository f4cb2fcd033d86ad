/-
# Operands of decoded instructions

An instruction carries its operands as bytes and 16-bit addresses, which is more than
a word has room for. What decoding produces is always as small as its place in the
word: a register or the height of a sprite is one nibble, an address is twelve bits.
That is all that keeps a program from naming a seventeenth register.

Decoding reads the parts of a word through functions that cannot fail. They are the digits
of the word, and they agree with the checked readers, so none of those would have refused
either. A word that means nothing is kept whole.
-/

import Chip8.Instruction.Decode
import Mathlib.Tactic.Common

namespace Chip8

/-- The low nibble of a byte. -/
theorem and_fifteen_eq_mod (value : UInt8) : value &&& 0xF = value % 16 := by
  have mask : (0xF : UInt8).toNat = 2 ^ 4 - 1 := rfl
  rw [← UInt8.toNat_inj, UInt8.toNat_and, mask, Nat.and_two_pow_sub_one_eq_mod, UInt8.toNat_mod]
  rfl

theorem toNat_and_lt (value : UInt8) : (value &&& 0xF).toNat < 16 := by
  rw [and_fifteen_eq_mod, UInt8.toNat_mod]
  exact Nat.mod_lt _ (by decide)

/-! ## Parts of a word -/

namespace Opcode

variable (op : Opcode)

/-- The first byte of a word is the higher one. -/
theorem toNat_word_ofBytes (high low : UInt8) :
    (ofBytes high low).word.toNat = 256 * high.toNat + low.toNat := by
  have wide : high.toNat < 256 := high.toNat_lt
  have eight : (8 : UInt16).toNat % 16 = 8 := by decide
  have shifted : (high.toUInt16 <<< 8).toNat = high.toNat <<< 8 := by
    rw [UInt16.toNat_shiftLeft, UInt8.toNat_toUInt16, eight, Nat.shiftLeft_eq]
    omega
  rw [ofBytes, UInt16.toNat_or, shifted, UInt8.toNat_toUInt16,
    ← Nat.shiftLeft_add_eq_or_of_lt low.toNat_lt, Nat.shiftLeft_eq]
  omega

/-- A nibble is a hexadecimal digit of the word. -/
theorem toNat_nibbleAt (place : Fin 4) :
    (op.nibbleAt place).toNat = op.word.toNat >>> (4 * place.val) % 16 := by
  have shift : (4 * UInt16.ofNat place.val).toNat % 16 = 4 * place.val := by
    have four : (4 : UInt16).toNat = 4 := rfl
    rw [UInt16.toNat_mul, UInt16.toNat_ofNat', four]
    omega
  have mask : (0xF : UInt16).toNat = 2 ^ 4 - 1 := rfl
  rw [nibbleAt, UInt16.toNat_toUInt8, UInt16.toNat_and, UInt16.toNat_shiftRight, shift, mask,
    Nat.and_two_pow_sub_one_eq_mod]
  exact Nat.mod_eq_of_lt (Nat.lt_of_lt_of_le (Nat.mod_lt _ (by decide)) (by decide))

theorem toNat_nibbleAt_lt (place : Fin 4) : (op.nibbleAt place).toNat < 16 := by
  rw [toNat_nibbleAt]
  exact Nat.mod_lt _ (by decide)

theorem toNat_family : op.family.toNat = op.word.toNat / 0x1000 := by
  have wide : op.word.toNat < 0x10000 := op.word.toNat_lt
  have digit : op.family.toNat = op.word.toNat >>> 12 % 16 := op.toNat_nibbleAt 3
  omega

theorem toNat_x : op.x.toNat = op.word.toNat / 0x100 % 0x10 := by
  have digit : op.x.toNat = op.word.toNat >>> 8 % 16 := op.toNat_nibbleAt 2
  omega

theorem toNat_y : op.y.toNat = op.word.toNat / 0x10 % 0x10 := by
  have digit : op.y.toNat = op.word.toNat >>> 4 % 16 := op.toNat_nibbleAt 1
  omega

theorem toNat_n : op.n.toNat = op.word.toNat % 0x10 := op.toNat_nibbleAt 0

theorem toNat_nn : op.nn.toNat = op.word.toNat % 0x100 := by
  have mask : (0xFF : UInt16).toNat = 2 ^ 8 - 1 := rfl
  have shift : (8 * UInt16.ofNat (0 : Fin 2).val).toNat % 16 = 0 := rfl
  rw [nn, byteAt, UInt16.toNat_toUInt8, UInt16.toNat_and, UInt16.toNat_shiftRight, shift, mask,
    Nat.and_two_pow_sub_one_eq_mod, Nat.shiftRight_zero, Nat.mod_mod]

theorem toNat_nnn : op.nnn.toNat = op.word.toNat % 0x1000 := by
  have digits : op.nnn.toNat = 256 * op.x.toNat + op.nn.toNat := toNat_word_ofBytes op.x op.nn
  rw [digits, toNat_x, toNat_nn]
  omega

theorem toNat_nnn_lt : op.nnn.toNat < 4096 := by
  rw [toNat_nnn]
  exact Nat.mod_lt _ (by decide)

/-- The checked reader of nibbles answers at every place that a word has. -/
theorem nibble_eq_ok (place : Fin 4) :
    op.nibble (.ofNat place.val) = .ok (op.nibbleAt place) := by
  have inside : (UInt8.ofNat place.val).toNat = place.val := by
    rw [UInt8.toNat_ofNat']
    omega
  have small : (UInt8.ofNat place.val).toNat < 4 := by omega
  have same : (⟨_, small⟩ : Fin 4) = place := Fin.ext inside
  rw [nibble, dif_pos small, same]

/-- The checked reader of bytes answers at every place that a word has. -/
theorem byte_eq_ok (place : Fin 2) :
    op.byte (.ofNat place.val) = .ok (op.byteAt place) := by
  have inside : (UInt8.ofNat place.val).toNat = place.val := by
    rw [UInt8.toNat_ofNat']
    omega
  have small : (UInt8.ofNat place.val).toNat < 2 := by omega
  have same : (⟨_, small⟩ : Fin 2) = place := Fin.ext inside
  rw [byte, dif_pos small, same]

end Opcode

/-! ## Instructions whose operands fit -/

namespace Instruction

/-- The operands that are one nibble of a word: numbers of registers and the height
of a sprite. -/
def nibbles : Instruction → List UInt8
  | .clearScreen | .ret | .jump _ | .call _ | .setIndex _ | .unknown _ => []
  | .skipIfByte x _ | .skipUnlessByte x _ | .setByte x _ | .addByte x _ | .random x _ => [x]
  | .skipIfSame x y | .skipUnlessSame x y | .alu _ x y => [x, y]
  | .draw x y height => [x, y, height]
  | .jumpOffset _ x | .skipIfKey x | .skipUnlessKey x | .readDelay x | .awaitKey x
  | .setDelay x | .setSound x | .addIndex x | .pointGlyph x | .storeDigits x
  | .storeRegisters x | .loadRegisters x => [x]

/-- The operands that are addresses. -/
def addresses : Instruction → List UInt16
  | .jump target | .call target | .setIndex target | .jumpOffset target _ => [target]
  | _ => []

/-- Every operand is as small as its place in a word. -/
structure InRange (instruction : Instruction) : Prop where
  /-- A nibble names one of sixteen registers. -/
  nibble_lt : ∀ nibble ∈ instruction.nibbles, nibble.toNat < 16
  /-- An address has twelve bits. -/
  address_lt : ∀ address ∈ instruction.addresses, address.toNat < 4096

theorem ofByteF?_inRange {x low : UInt8} {instruction : Instruction} (small : x.toNat < 16)
    (decoded : ofByteF? x low = some instruction) : instruction.InRange := by
  unfold ofByteF? at decoded
  split at decoded <;> simp only [Option.some.injEq, reduceCtorEq] at decoded <;>
    subst decoded <;> exact ⟨by simpa [nibbles] using small, by simp [addresses]⟩

theorem ofByteE?_inRange {x low : UInt8} {instruction : Instruction} (small : x.toNat < 16)
    (decoded : ofByteE? x low = some instruction) : instruction.InRange := by
  unfold ofByteE? at decoded
  split at decoded <;> simp only [Option.some.injEq, reduceCtorEq] at decoded <;>
    subst decoded <;> exact ⟨by simpa [nibbles] using small, by simp [addresses]⟩

theorem ofWord0?_inRange {word : UInt16} {instruction : Instruction}
    (decoded : ofWord0? word = some instruction) : instruction.InRange := by
  unfold ofWord0? at decoded
  split at decoded <;> simp only [Option.some.injEq, reduceCtorEq] at decoded <;>
    subst decoded <;> exact ⟨by simp [nibbles], by simp [addresses]⟩

theorem ofOpcode?_inRange {op : Opcode} {instruction : Instruction}
    (decoded : ofOpcode? op = some instruction) : instruction.InRange := by
  have hx : op.x.toNat < 16 := op.toNat_nibbleAt_lt 2
  have hy : op.y.toNat < 16 := op.toNat_nibbleAt_lt 1
  have hn : op.n.toNat < 16 := op.toNat_nibbleAt_lt 0
  have hnnn : op.nnn.toNat < 4096 := op.toNat_nnn_lt
  unfold ofOpcode? at decoded
  split at decoded
  · exact ofWord0?_inRange decoded
  case h_9 =>
    obtain ⟨operation, -, rfl⟩ := Option.map_eq_some_iff.mp decoded
    exact ⟨by simp [nibbles, hx, hy], by simp [addresses]⟩
  case h_15 => exact ofByteE?_inRange hx decoded
  case h_16 => exact ofByteF?_inRange hx decoded
  case h_17 => simp at decoded
  all_goals
    simp only [Option.some.injEq] at decoded
    subst decoded
    exact ⟨by simp [nibbles, hx, hy, hn], by simp [addresses, hnnn]⟩

/-- Whatever a word is, the operands that are read from it fit. -/
theorem decode_inRange (op : Opcode) : (decode op).InRange := by
  rw [decode]
  cases decoded : ofOpcode? op with
  | none => exact ⟨by simp [nibbles], by simp [addresses]⟩
  | some instruction => exact ofOpcode?_inRange decoded

/-! ## Words that mean nothing -/

/-- What a word stands for is never that it means nothing. -/
theorem ofOpcode?_ne_unknown {op word : Opcode} : ofOpcode? op ≠ some (.unknown word) := by
  intro decoded
  unfold ofOpcode? ofWord0? ofByteE? ofByteF? at decoded
  split at decoded <;> try split at decoded
  all_goals simp at decoded

/-- A word that means nothing is kept as it is. -/
theorem eq_of_decode_unknown {op word : Opcode} (meaningless : decode op = .unknown word) :
    word = op := by
  rw [decode] at meaningless
  cases decoded : ofOpcode? op with
  | none =>
      rw [decoded] at meaningless
      exact (Instruction.unknown.inj meaningless).symm
  | some instruction =>
      rw [decoded] at meaningless
      exact absurd (decoded.trans (congrArg some meaningless)) ofOpcode?_ne_unknown

end Instruction

end Chip8
