/-
# What a memory holds

A memory is known by the byte at each of its places. `dataAt` says which byte some data
has at a place if it is laid out from a start on, and with it each way to change a memory
is one equation: what was laid over it is there, and all else is as before. A new memory
holds the font and zeros.

Everything that a program reads is made of these bytes: the word of an instruction, the
rows of a sprite, and the registers that are loaded. In particular, as long as the bytes
of the font are the original ones, the address of a digit's glyph leads to the original
glyph.
-/

import Chip8.Proofs.Memory.Span
import Chip8.Proofs.Operand

namespace Chip8

/-! ## Digits -/

/-- The three digits of a byte, and that they are its digits. -/
theorem Memory.exists_decimalDigits (value : UInt8) :
    ∃ hundreds tens ones, decimalDigits value = [hundreds, tens, ones] ∧
      hundreds.toNat ≤ 9 ∧ tens.toNat ≤ 9 ∧ ones.toNat ≤ 9 ∧
      100 * hundreds.toNat + 10 * tens.toNat + ones.toNat = value.toNat := by
  have wide : value.toNat < 256 := value.toNat_lt
  have hundred : (100 : UInt8).toNat = 100 := rfl
  have ten : (10 : UInt8).toNat = 10 := rfl
  refine ⟨_, _, _, rfl, ?_⟩
  simp only [UInt8.toNat_div, UInt8.toNat_mod, hundred, ten]
  omega

/-! ## Data at places -/

/-- The byte at a place of data that is laid out from a start on. -/
def dataAt (start : Nat) (data : List UInt8) (place : Nat) : Option UInt8 :=
  if start ≤ place then data[place - start]? else none

/-- Data has no byte outside of the places that it covers. -/
theorem dataAt_of_outside {start length place : Nat} {data : List UInt8}
    (short : data.length ≤ length) (outside : ¬ (start ≤ place ∧ place < start + length)) :
    dataAt start data place = none := by
  unfold dataAt
  split
  · exact List.getElem?_eq_none (by omega)
  · rfl

/-- The byte of a new memory at a place: a byte of the font, or zero. -/
def firstByte (place : Nat) : UInt8 := (dataAt fontStart font place).getD 0

namespace Memory

variable {memory : Memory} {address : UInt16}

theorem byteAt_withOverlay_eq {start : Nat} {data : List UInt8}
    (inside : start + data.length ≤ memory.bytes.size) (place : Nat) :
    (memory.withOverlay start data).byteAt place =
      (dataAt start data place).getD (memory.byteAt place) := by
  rw [byteAt_withOverlay start data inside, dataAt]
  by_cases covered : start ≤ place ∧ place < start + data.length
  · have within : place - start < data.length := by omega
    simp [covered, within]
  · rw [if_neg covered]
    split
    · rw [List.getElem?_eq_none (by omega)]
      rfl
    · rfl

theorem byteAt_grow (size place : Nat) : (memory.grow size).byteAt place = memory.byteAt place := by
  rw [byteAt, grow, byteAt, Array.getD_eq_getD_getElem?, Array.getD_eq_getD_getElem?,
    Array.getElem?_append]
  split
  · rfl
  · rw [Array.getElem?_replicate, Array.getElem?_eq_none (by omega)]
    split <;> rfl

theorem byteAt_zeros (capacity place : Nat) : (zeros capacity).byteAt place = 0 := by
  rw [byteAt, zeros, Array.getD_eq_getD_getElem?, Array.getElem?_replicate]
  split <;> rfl

/-- A new memory holds the font and zeros. -/
theorem byteAt_fresh {capacity : Nat} (roomy : romStart ≤ capacity) (place : Nat) :
    ((zeros capacity).withOverlay fontStart font).byteAt place = firstByte place := by
  have inside : fontStart + font.length ≤ (zeros capacity).bytes.size := by
    have glyphs : fontStart + font.length = 0xA0 := rfl
    rw [glyphs, zeros, Array.size_replicate]
    simp only [romStart] at roomy
    simp only [spanReach]
    omega
  rw [byteAt_withOverlay_eq inside, byteAt_zeros, firstByte]

/-- A program that was put into memory is there. -/
theorem byteAt_of_rom (rom : List UInt8) (place : Nat) :
    ((memory.grow (romStart + rom.length)).withOverlay romStart rom).byteAt place =
      (dataAt romStart rom place).getD (memory.byteAt place) := by
  rw [byteAt_withOverlay_eq, byteAt_grow]
  simp only [grow, Array.size_append, Array.size_replicate]
  omega

/-! ## What programs read -/

/-- All that can be read from a memory consists of given bytes, one at each place. -/
structure ReadsAs (memory : Memory) (content : Nat → UInt8) : Prop where
  byteAt_eq : ∀ place < memory.capacity, memory.byteAt place = content place
  fetch_eq : ∀ address : UInt16, address.toNat + 2 ≤ memory.capacity →
    ∃ op, memory.fetch address = .ok op ∧ op.word.toNat =
      256 * (content address.toNat).toNat + (content (address.toNat + 1)).toNat
  sprite_eq : ∀ (address : UInt16) (height : UInt8),
    address.toNat + height.toNat ≤ memory.capacity →
    memory.sprite address height =
      .ok ((List.range height.toNat).map fun row => content (address.toNat + row))
  loadRegisters_eq : ∀ (address : UInt16) (last : UInt8) (values : Vector UInt8 16),
    last.toNat < 16 → address.toNat + (last.toNat + 1) ≤ memory.capacity →
    ∃ loaded, memory.loadRegisters address last values = .ok loaded ∧
      ∀ place : Fin 16, loaded.get place =
        if place.val ≤ last.toNat then content (address.toNat + place.val)
        else values.get place

section Reads

variable {content : Nat → UInt8}
  (known : ∀ place < memory.capacity, memory.byteAt place = content place)
include known

/-- The bytes of a span that is not refused. -/
theorem span_eq_map {length : Nat} (small : length ≤ 256)
    (inside : address.toNat + length ≤ memory.capacity) :
    memory.span address length =
      (List.range length).map fun offset => content (address.toNat + offset) := by
  rw [span_eq_bytesFrom small (spanFault?_eq_none_iff.mpr inside), bytesFrom]
  apply List.map_congr_left
  intro offset listed
  have within : offset < length := List.mem_range.mp listed
  exact known _ (by omega)

/-- It is enough to know the byte at each place. -/
theorem readsAs_of_byteAt : memory.ReadsAs content where
  byteAt_eq := known
  fetch_eq := by
    intro address inside
    refine ⟨_, fetch_of_none (spanFault?_eq_none_iff.mpr inside), ?_⟩
    rw [word, Opcode.toNat_word_ofBytes, known _ (by omega), known _ (by omega)]
  sprite_eq := by
    intro address height inside
    rw [sprite, read_of_none (spanFault?_eq_none_iff.mpr inside),
      span_eq_map known (Nat.le_of_lt height.toNat_lt) inside]
  loadRegisters_eq := by
    intro address last values small inside
    refine ⟨_, loadRegisters_of_none values small (spanFault?_eq_none_iff.mpr inside), ?_⟩
    intro place
    have found : (memory.loaded address last values).get place =
        (memory.span address (last.toNat + 1)).getD place.val (values.get place) :=
      Vector.getElem_mapIdx place.isLt
    rw [found, span_eq_map known (by omega) inside, List.getD_eq_getElem?_getD, List.getElem?_map]
    split
    · rw [List.getElem?_range (by omega)]
      rfl
    · rw [List.getElem?_eq_none (by rw [List.length_range]; omega)]
      rfl

end Reads

/-! ## Glyphs -/

/-- The rows of the glyph of a digit. -/
def glyph (digit : UInt8) : List UInt8 := (font.drop (digit.toNat * glyphHeight)).take glyphHeight

theorem bytes_of_glyph (digit : Fin 16) :
    ((List.range glyphHeight).map fun row =>
      firstByte (fontStart + digit.val * glyphHeight + row)) = glyph (.ofNat digit.val) := by
  decide +revert

/-- As long as the bytes of the font are the original ones, every glyph is. -/
theorem sprite_of_glyphAddress {digit : UInt8} (found : glyphAddress digit = .ok address)
    (roomy : romStart ≤ memory.capacity)
    (original : ∀ place, fontStart ≤ place → place < fontStart + font.length →
      memory.byteAt place = firstByte place) :
    memory.sprite address 5 = .ok (glyph digit) := by
  unfold glyphAddress at found
  split at found
  case isFalse => cases found
  case isTrue small =>
    obtain rfl := Except.ok.inj found
    have below : digit.toNat ≤ 15 := UInt8.le_iff_toNat_le.mp small
    -- The last glyph ends where the font ends, which is below the place of programs.
    have last : digit.toNat * glyphHeight ≤ 75 := Nat.mul_le_mul_right glyphHeight below
    have bounds : fontStart = 0x50 ∧ glyphHeight = 5 ∧ font.length = 80 ∧ romStart = 0x200 :=
      ⟨rfl, rfl, rfl, rfl⟩
    have start : (UInt16.ofNat (fontStart + digit.toNat * glyphHeight)).toNat =
        fontStart + digit.toNat * glyphHeight :=
      UInt16.toNat_ofNat_of_lt' (by rw [UInt16.size]; omega)
    have inside : (UInt16.ofNat (fontStart + digit.toNat * glyphHeight)).toNat + glyphHeight ≤
        memory.capacity := by omega
    have rows := bytes_of_glyph ⟨digit.toNat, Nat.lt_succ_of_le below⟩
    rw [UInt8.ofNat_toNat] at rows
    have read := read_of_none (spanFault?_eq_none_iff.mpr inside)
    rw [span_eq_bytesFrom (by decide) (spanFault?_eq_none_iff.mpr inside), bytesFrom, start] at read
    rw [sprite, ← rows]
    refine read.trans (congrArg Except.ok (List.map_congr_left ?_))
    intro row listed
    have within : row < glyphHeight := List.mem_range.mp listed
    exact original _ (by omega) (by omega)

end Memory

end Chip8
