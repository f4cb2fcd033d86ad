/-
# Larger memories

A memory extends a smaller one if it holds the same bytes where the smaller one has any, and
zeros behind them. What the smaller memory does not refuse has the same outcome in both: reads
find the same bytes, and the memory behind a write extends the smaller one behind the same
write. What the smaller memory refuses may be there in the larger one, and nothing is said
of it.
-/

import Chip8.Proofs.Memory.Content

namespace Chip8.Memory

/-- The second memory has the bytes of the first one, and zeros behind them. -/
structure Extends (small large : Memory) : Prop where
  capacity_le : small.capacity ≤ large.capacity
  byteAt_eq : ∀ place < small.capacity, large.byteAt place = small.byteAt place
  byteAt_zero : ∀ place, small.capacity ≤ place → large.byteAt place = 0

theorem firstByte_of_romStart_le {place : Nat} (behind : romStart ≤ place) :
    firstByte place = 0 := by
  have bounds : fontStart = 0x50 ∧ font.length = 80 ∧ romStart = 0x200 := ⟨rfl, rfl, rfl⟩
  rw [firstByte, dataAt, List.getElem?_eq_none (by omega), ite_self]
  rfl

/-- A larger new memory extends a smaller one. -/
theorem extends_fresh {capacity capacity' : Nat} (roomy : romStart ≤ capacity)
    (larger : capacity ≤ capacity') :
    Extends ((zeros capacity).withOverlay fontStart font)
      ((zeros capacity').withOverlay fontStart font) where
  capacity_le := larger
  byteAt_eq place _ := by rw [byteAt_fresh roomy, byteAt_fresh (Nat.le_trans roomy larger)]
  byteAt_zero place behind := by
    rw [byteAt_fresh (Nat.le_trans roomy larger)]
    exact firstByte_of_romStart_le (Nat.le_trans roomy behind)

namespace Extends

variable {small large : Memory} {address : UInt16} {length : Nat}

/-! ## Reading -/

theorem spanFault?_eq_none (larger : small.Extends large)
    (inside : small.spanFault? address length = none) :
    large.spanFault? address length = none :=
  spanFault?_eq_none_iff.mpr
    (Nat.le_trans (spanFault?_eq_none_iff.mp inside) larger.capacity_le)

theorem span_eq (larger : small.Extends large) (short : length ≤ 256)
    (inside : small.spanFault? address length = none) :
    large.span address length = small.span address length := by
  rw [span_eq_bytesFrom short (larger.spanFault?_eq_none inside),
    span_eq_bytesFrom short inside, bytesFrom, bytesFrom]
  apply List.map_congr_left
  intro offset listed
  have within : offset < length := List.mem_range.mp listed
  have reached : address.toNat + length ≤ small.capacity := spanFault?_eq_none_iff.mp inside
  exact larger.byteAt_eq _ (by omega)

theorem word_eq (larger : small.Extends large) (inside : small.spanFault? address 2 = none) :
    large.word address = small.word address := by
  have reached : address.toNat + 2 ≤ small.capacity := spanFault?_eq_none_iff.mp inside
  rw [word, word, larger.byteAt_eq _ (by omega), larger.byteAt_eq _ (by omega)]

theorem loaded_eq (larger : small.Extends large) {last : UInt8}
    (inside : small.spanFault? address (last.toNat + 1) = none) (registers : Vector UInt8 16) :
    large.loaded address last registers = small.loaded address last registers := by
  rw [loaded, larger.span_eq last.toNat_lt inside, loaded]

/-! ## Writing -/

/-- Bytes that are laid over both memories at places of the smaller one. -/
theorem of_data {small' large' : Memory} (larger : small.Extends large) {start : Nat}
    {data : List UInt8} (inside : start + data.length ≤ small.capacity)
    (small_eq : small'.capacity = small.capacity) (large_eq : large'.capacity = large.capacity)
    (written : ∀ place, small'.byteAt place =
      (dataAt start data place).getD (small.byteAt place))
    (written' : ∀ place, large'.byteAt place =
      (dataAt start data place).getD (large.byteAt place)) : small'.Extends large' where
  capacity_le := by rw [small_eq, large_eq]; exact larger.capacity_le
  byteAt_eq place before := by
    rw [small_eq] at before
    rw [written, written', larger.byteAt_eq place before]
  byteAt_zero place behind := by
    rw [small_eq] at behind
    have outside : dataAt start data place = none := by
      rw [dataAt, List.getElem?_eq_none (by omega), ite_self]
    rw [written', outside, Option.getD_none, larger.byteAt_zero place behind]

theorem withOverlay (larger : small.Extends large) {data : List UInt8}
    (short : data.length ≤ 256) (inside : small.spanFault? address data.length = none) :
    (small.withOverlay address.toNat data).Extends (large.withOverlay address.toNat data) := by
  have inside' := larger.spanFault?_eq_none inside
  rw [spanFault?_eq_none_iff] at inside inside'
  exact larger.of_data inside rfl rfl
    (byteAt_withOverlay_eq (span_le_size short inside))
    (byteAt_withOverlay_eq (span_le_size short inside'))

/-- A program that fits the smaller memory is put into both. -/
theorem loadRom (larger : small.Extends large) {rom : List UInt8}
    (fits : rom.length ≤ small.capacity - romStart) (roomy : romStart ≤ small.capacity) :
    ∃ small' large', small.loadRom rom = .ok small' ∧ large.loadRom rom = .ok large' ∧
      small'.Extends large' := by
  have fits' : ¬ large.capacity - romStart < rom.length := by
    have capacity_le := larger.capacity_le
    omega
  refine ⟨_, _, if_neg (Nat.not_lt.mpr fits), if_neg fits', ?_⟩
  exact larger.of_data (by omega) rfl rfl (byteAt_of_rom rom) (byteAt_of_rom rom)

end Extends

end Chip8.Memory
