/-
# Spans of memory

Every access names a span, and whether it is refused depends on the span alone:
`spanFault?` says so without looking at how accesses are written. Each access is
then described twice, for a span that is refused and for one that is not.

A span that is not refused lies within the bytes that are kept, also in a memory of
more bytes than addresses reach. So nothing that is read is shorter than what was
asked for, and all that is written is there afterwards.
-/

import Chip8.Memory
import Chip8.Proofs.Outcome
import Mathlib.Tactic.Common

namespace Chip8.Memory

variable (memory : Memory)

/-! ## Which spans are refused -/

/-- The fault of an access to a span, if it does not lie inside the memory. The end
is a natural number, so a span that starts at a 16-bit address never wraps. -/
def spanFault? (address : UInt16) (length : Nat) : Option Fault :=
  if memory.capacity < address.toNat + length then
    some (.outOfBounds address.toNat length memory.capacity)
  else none

variable {memory} {address : UInt16} {length : Nat}

theorem spanFault?_eq_none_iff :
    memory.spanFault? address length = none ↔ address.toNat + length ≤ memory.capacity := by
  unfold spanFault?
  split <;> simp <;> omega

theorem checkSpan_of_none (inside : memory.spanFault? address length = none) :
    memory.checkSpan address length = .ok () :=
  if_pos (spanFault?_eq_none_iff.mp inside)

theorem checkSpan_of_some {fault : Fault}
    (outside : memory.spanFault? address length = some fault) :
    memory.checkSpan address length = .error fault := by
  unfold spanFault? at outside
  split at outside
  case isTrue beyond =>
    rw [checkSpan, if_neg (by omega)]
    exact congrArg Except.error (Option.some.inj outside)
  case isFalse => simp at outside

/-- The bytes of a span that is not refused are all kept. -/
theorem span_le_size (small : length ≤ 256)
    (inside : address.toNat + length ≤ memory.capacity) :
    address.toNat + length ≤ memory.bytes.size := by
  have wide : address.toNat < 0x10000 := address.toNat_lt
  have kept : min memory.capacity spanReach ≤ memory.bytes.size := memory.reach_le_size
  rw [spanReach] at kept
  omega

/-! ## Reading -/

/-- The bytes of a span, as far as they are kept. -/
def span (memory : Memory) (address : UInt16) (length : Nat) : List UInt8 :=
  (memory.bytes.extract address.toNat (address.toNat + length)).toList

theorem read_of_none (inside : memory.spanFault? address length = none) :
    memory.read address length = .ok (memory.span address length) := by
  rw [read, checkSpan_of_none inside]
  rfl

theorem read_of_some {fault : Fault}
    (outside : memory.spanFault? address length = some fault) :
    memory.read address length = .error fault := by
  rw [read, checkSpan_of_some outside]
  rfl

/-- A span that is not refused is read as a whole. -/
theorem length_span (small : length ≤ 256) (inside : memory.spanFault? address length = none) :
    (memory.span address length).length = length := by
  have kept := span_le_size small (spanFault?_eq_none_iff.mp inside)
  rw [span, Array.length_toList, Array.size_extract]
  omega

/-- What is read is as long as what was asked for. -/
theorem length_of_read (small : length ≤ 256) {found : List UInt8}
    (answered : memory.read address length = .ok found) : found.length = length := by
  cases refused : memory.spanFault? address length with
  | some fault => simp [read_of_some refused] at answered
  | none =>
      rw [read_of_none refused, Except.ok.injEq] at answered
      rw [← answered, length_span small refused]

/-- The byte at a place, as a program sees it; zero where there is none. -/
def byteAt (memory : Memory) (place : Nat) : UInt8 := memory.bytes.getD place 0

/-- The bytes at some places that follow each other. -/
def bytesFrom (memory : Memory) (start length : Nat) : List UInt8 :=
  (List.range length).map fun offset => memory.byteAt (start + offset)

/-- A span that is not refused consists of the bytes at its places. -/
theorem span_eq_bytesFrom (small : length ≤ 256)
    (inside : memory.spanFault? address length = none) :
    memory.span address length = memory.bytesFrom address.toNat length := by
  have kept := span_le_size small (spanFault?_eq_none_iff.mp inside)
  apply List.ext_getElem?
  intro offset
  rw [span, Array.getElem?_toList, Array.getElem?_extract, bytesFrom, List.getElem?_map]
  by_cases within : offset < length
  · rw [if_pos (by omega), List.getElem?_range within, Option.map_some, byteAt,
      Array.getD_eq_getD_getElem?, Array.getElem?_eq_getElem (by omega), Option.getD_some]
  · rw [if_neg (by omega), List.getElem?_eq_none (by rw [List.length_range]; omega)]
    rfl

/-- The word of the byte at an address and the one behind it, the higher byte first. -/
def word (memory : Memory) (address : UInt16) : Opcode :=
  .ofBytes (memory.byteAt address.toNat) (memory.byteAt (address.toNat + 1))

theorem fetch_of_some {fault : Fault} (outside : memory.spanFault? address 2 = some fault) :
    memory.fetch address = .error fault := by
  rw [fetch, read_of_some outside]
  rfl

theorem fetch_of_none (inside : memory.spanFault? address 2 = none) :
    memory.fetch address = .ok (memory.word address) := by
  rw [fetch, read_of_none inside]
  simp [word, byteAt, span]

/-! ## Writing -/

theorem getElem?_overlay (bytes : Array UInt8) (start : Nat) (data : List UInt8)
    (inside : start + data.length ≤ bytes.size) (place : Nat) :
    (overlay bytes start data)[place]? =
      if start ≤ place ∧ place < start + data.length then data[place - start]?
      else bytes[place]? := by
  induction data generalizing bytes start with
  | nil =>
      rw [overlay, if_neg]
      simp
  | cons byte rest ih =>
      rw [List.length_cons] at inside
      rw [overlay, ih _ _ (by rw [Array.size_setIfInBounds]; omega), List.length_cons]
      by_cases first : place = start
      · subst first
        rw [if_neg (by omega), if_pos (by omega), Nat.sub_self,
          Array.getElem?_setIfInBounds_self_of_lt (by omega)]
        rfl
      · rw [Array.getElem?_setIfInBounds_ne (Ne.symm first)]
        by_cases within : start + 1 ≤ place ∧ place < start + 1 + rest.length
        · have behind : place - start = place - (start + 1) + 1 := by omega
          rw [if_pos within, if_pos (by omega), behind, List.getElem?_cons_succ]
        · rw [if_neg within, if_neg (by omega)]

/-- A byte that was written is there afterwards, and no other byte changes. -/
theorem byteAt_withOverlay (start : Nat) (data : List UInt8)
    (inside : start + data.length ≤ memory.bytes.size) (place : Nat) :
    (memory.withOverlay start data).byteAt place =
      if start ≤ place ∧ place < start + data.length then data.getD (place - start) 0
      else memory.byteAt place := by
  have found := getElem?_overlay memory.bytes start data inside place
  rw [byteAt, withOverlay, Array.getD_eq_getD_getElem?, found]
  split
  · rw [List.getD_eq_getElem?_getD]
  · rw [byteAt, Array.getD_eq_getD_getElem?]

/-- Of data that was laid out, each part can be read at its own place. -/
theorem span_withOverlay {start : Nat} {data : List UInt8}
    (inside : start + data.length ≤ memory.bytes.size) (starts : start ≤ address.toNat)
    (ends : address.toNat + length ≤ start + data.length) :
    (memory.withOverlay start data).span address length =
      (data.drop (address.toNat - start)).take length := by
  apply List.ext_getElem?
  intro offset
  rw [span, Array.getElem?_toList, Array.getElem?_extract, List.getElem?_take, List.getElem?_drop]
  simp only [withOverlay, size_overlay]
  by_cases within : offset < length
  · rw [if_pos (by omega), if_pos within, getElem?_overlay _ _ _ inside, if_pos (by omega)]
    congr 1
    omega
  · rw [if_neg (by omega), if_neg within]

theorem write_of_none {data : List UInt8}
    (inside : memory.spanFault? address data.length = none) :
    memory.write address data = .ok (memory.withOverlay address.toNat data) := by
  rw [write, checkSpan_of_none inside]
  rfl

theorem write_of_some {data : List UInt8} {fault : Fault}
    (outside : memory.spanFault? address data.length = some fault) :
    memory.write address data = .error fault := by
  rw [write, checkSpan_of_some outside]
  rfl

/-- All that is written can be read back. -/
theorem read_of_write {data : List UInt8} {after : Memory} (small : data.length ≤ 256)
    (written : memory.write address data = .ok after) :
    after.read address data.length = .ok data := by
  cases refused : memory.spanFault? address data.length with
  | some fault => simp [write_of_some refused] at written
  | none =>
      have kept := span_le_size small (spanFault?_eq_none_iff.mp refused)
      rw [write_of_none refused, Except.ok.injEq] at written
      subst written
      -- Only the capacity decides what is refused, and a write leaves it alone.
      have again : (memory.withOverlay address.toNat data).spanFault? address data.length =
        none := refused
      rw [read_of_none again, span_withOverlay kept (Nat.le_refl _) (Nat.le_refl _), Nat.sub_self,
        List.drop_zero, List.take_length]

/-! ## Digits and registers -/

theorem storeDigits_of_none {value : UInt8} (inside : memory.spanFault? address 3 = none) :
    memory.storeDigits address value =
      .ok (memory.withOverlay address.toNat (decimalDigits value)) :=
  write_of_none inside

theorem storeDigits_of_some {value : UInt8} {fault : Fault}
    (outside : memory.spanFault? address 3 = some fault) :
    memory.storeDigits address value = .error fault :=
  write_of_some outside

section Registers

variable {count : Nat} {last : UInt8} (registers : Vector UInt8 count)

theorem storeRegisters_of_none (enough : last.toNat < count)
    (inside : memory.spanFault? address (last.toNat + 1) = none) :
    memory.storeRegisters address last registers =
      .ok (memory.withOverlay address.toNat (registers.toList.take (last.toNat + 1))) := by
  have length_eq : (registers.toList.take (last.toNat + 1)).length = last.toNat + 1 := by
    rw [List.length_take, Vector.length_toList]
    omega
  rw [storeRegisters, checkSpan_of_none inside, liftFault_ok, ok_bind, if_neg (by omega),
    write_of_none (by rw [length_eq]; exact inside)]
  rfl

theorem storeRegisters_of_some {fault : Fault}
    (outside : memory.spanFault? address (last.toNat + 1) = some fault) :
    memory.storeRegisters address last registers = .error (.fault fault) := by
  rw [storeRegisters, checkSpan_of_some outside]
  rfl

/-- Registers are loaded from the first on, and those that no byte is left for stay. -/
theorem loadRegisters_eq_mapIdx (enough : last.toNat < count)
    (inside : memory.spanFault? address (last.toNat + 1) = none) :
    memory.loadRegisters address last registers =
      .ok (registers.mapIdx fun place old =>
        (memory.span address (last.toNat + 1)).getD place old) := by
  rw [loadRegisters, read_of_none inside, liftFault_ok, ok_bind, if_neg (by omega)]
  rfl

theorem loadRegisters_of_some {fault : Fault}
    (outside : memory.spanFault? address (last.toNat + 1) = some fault) :
    memory.loadRegisters address last registers = .error (.fault fault) := by
  rw [loadRegisters, read_of_some outside]
  rfl

/-- The registers after the first `last + 1` of them were read from a span. -/
def loaded (memory : Memory) (address : UInt16) (last : UInt8) (registers : Vector UInt8 16) :
    Vector UInt8 16 :=
  registers.mapIdx fun place old => (memory.span address (last.toNat + 1)).getD place old

theorem loadRegisters_of_none (registers : Vector UInt8 16) (small : last.toNat < 16)
    (inside : memory.spanFault? address (last.toNat + 1) = none) :
    memory.loadRegisters address last registers =
      .ok (memory.loaded address last registers) :=
  loadRegisters_eq_mapIdx registers small inside

end Registers

end Chip8.Memory
