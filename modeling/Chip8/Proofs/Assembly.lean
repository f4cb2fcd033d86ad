/-
# Words that stand for instructions

Decoding can be undone, but for one nibble. `encode` puts an instruction back into a word: the
digit of its family, its operands in their places, and in the families 8, E and F what tells the
instructions of the family apart. Two families do not look at their last nibble, so `encode` is
given one, and only these two use it. Behind a decoded word it is the last nibble of that word,
and then the word comes back.

So two words that decode to the same instruction are the same, unless they are of one of these
two families and differ in the nibble that is not looked at. Nothing is said about instructions
that no word stands for.
-/

import Chip8.Proofs.Memory.Span
import Chip8.Proofs.Operand
import Mathlib.Data.List.Basic

namespace Chip8

/-- The last digit of the words of an operation. -/
def AluOp.digit : AluOp → Nat
  | .copy => 0x0
  | .or => 0x1
  | .and => 0x2
  | .xor => 0x3
  | .add => 0x4
  | .subtract => 0x5
  | .shiftRight => 0x6
  | .subtractFrom => 0x7
  | .shiftLeft => 0xE

theorem AluOp.digit_lt (op : AluOp) : op.digit < 0x10 := by
  cases op <;> decide

theorem AluOp.digit_of_ofNibble? {last : UInt8} {op : AluOp}
    (found : AluOp.ofNibble? last = some op) : op.digit = last.toNat := by
  unfold ofNibble? at found
  split at found <;> cases found <;> rfl

theorem AluOp.ofNibble?_of_digit {last : UInt8} {op : AluOp} (same : last.toNat = op.digit) :
    AluOp.ofNibble? last = some op := by
  have digit : last = .ofNat op.digit := UInt8.toNat_inj.mp (by cases op <;> exact same)
  rw [digit]
  cases op <;> rfl

namespace Opcode

/-- A word is known by its number. -/
theorem toNat_word_inj {op op' : Opcode} : op.word.toNat = op'.word.toNat ↔ op = op' := by
  rw [UInt16.toNat_inj]
  exact ⟨fun same => congrArg Opcode.mk same, congrArg Opcode.word⟩

end Opcode

namespace Instruction

/-- The word that stands for an instruction, as a number. In the families that do not look at it
the last digit is `last`. -/
def encode (instruction : Instruction) (last : Nat) : Nat :=
  match instruction with
  | .clearScreen => 0x00E0
  | .ret => 0x00EE
  | .jump target => 0x1000 + target.toNat
  | .call target => 0x2000 + target.toNat
  | .skipIfByte x value => 0x3000 + 0x100 * x.toNat + value.toNat
  | .skipUnlessByte x value => 0x4000 + 0x100 * x.toNat + value.toNat
  | .skipIfSame x y => 0x5000 + 0x100 * x.toNat + 0x10 * y.toNat + last
  | .setByte x value => 0x6000 + 0x100 * x.toNat + value.toNat
  | .addByte x value => 0x7000 + 0x100 * x.toNat + value.toNat
  | .alu op x y => 0x8000 + 0x100 * x.toNat + 0x10 * y.toNat + op.digit
  | .skipUnlessSame x y => 0x9000 + 0x100 * x.toNat + 0x10 * y.toNat + last
  | .setIndex target => 0xA000 + target.toNat
  | .jumpOffset base _ => 0xB000 + base.toNat
  | .random x mask => 0xC000 + 0x100 * x.toNat + mask.toNat
  | .draw x y height => 0xD000 + 0x100 * x.toNat + 0x10 * y.toNat + height.toNat
  | .skipIfKey x => 0xE09E + 0x100 * x.toNat
  | .skipUnlessKey x => 0xE0A1 + 0x100 * x.toNat
  | .readDelay x => 0xF007 + 0x100 * x.toNat
  | .awaitKey x => 0xF00A + 0x100 * x.toNat
  | .setDelay x => 0xF015 + 0x100 * x.toNat
  | .setSound x => 0xF018 + 0x100 * x.toNat
  | .addIndex x => 0xF01E + 0x100 * x.toNat
  | .pointGlyph x => 0xF029 + 0x100 * x.toNat
  | .storeDigits x => 0xF033 + 0x100 * x.toNat
  | .storeRegisters x => 0xF055 + 0x100 * x.toNat
  | .loadRegisters x => 0xF065 + 0x100 * x.toNat
  | .unknown op => op.word.toNat

variable {op op' : Opcode} {x low : UInt8} {instruction : Instruction} {last : Nat}

/-! ## From a word to its instruction and back -/

theorem encode_of_ofByteF? (decoded : ofByteF? x low = some instruction) :
    instruction.encode last = 0xF000 + 0x100 * x.toNat + low.toNat := by
  unfold ofByteF? at decoded
  split at decoded <;> cases decoded <;> simp only [encode, UInt8.reduceToNat] <;> omega

theorem encode_of_ofByteE? (decoded : ofByteE? x low = some instruction) :
    instruction.encode last = 0xE000 + 0x100 * x.toNat + low.toNat := by
  unfold ofByteE? at decoded
  split at decoded <;> cases decoded <;> simp only [encode, UInt8.reduceToNat] <;> omega

theorem encode_of_ofWord0? {word : UInt16} (decoded : ofWord0? word = some instruction) :
    instruction.encode last = word.toNat := by
  unfold ofWord0? at decoded
  split at decoded <;> cases decoded <;> rfl

/-- An instruction and the last nibble of its word are all that the word says. -/
theorem encode_decode (op : Opcode) :
    (decode op).encode (op.word.toNat % 0x10) = op.word.toNat := by
  have hfamily := op.toNat_family
  have hx := op.toNat_x
  have hy := op.toNat_y
  have hn := op.toNat_n
  have hnn := op.toNat_nn
  have hnnn := op.toNat_nnn
  rw [decode]
  cases decoded : ofOpcode? op with
  | none => rfl
  | some instruction =>
      rw [Option.getD_some]
      unfold ofOpcode? at decoded
      split at decoded
      case h_1 => exact encode_of_ofWord0? decoded
      case h_9 family =>
        obtain ⟨operation, named, rfl⟩ := Option.map_eq_some_iff.mp decoded
        simp only [family, UInt8.reduceToNat] at hfamily
        simp only [encode, AluOp.digit_of_ofNibble? named]
        omega
      case h_15 family =>
        simp only [family, UInt8.reduceToNat] at hfamily
        rw [encode_of_ofByteE? decoded]
        omega
      case h_16 family =>
        simp only [family, UInt8.reduceToNat] at hfamily
        rw [encode_of_ofByteF? decoded]
        omega
      case h_17 => cases decoded
      -- In all other families the operands follow the first digit.
      all_goals
        next family =>
          cases decoded
          simp only [family, UInt8.reduceToNat] at hfamily
          simp only [encode]
          omega

/-- The word of each operation on each two registers. -/
theorem decode_arithmetic (operation : AluOp) (x y : Fin 16) :
    decode ⟨.ofNat (0x8000 + 0x100 * x.val + 0x10 * y.val + operation.digit)⟩ =
      .alu operation (.ofNat x.val) (.ofNat y.val) := by
  let op : Opcode := ⟨.ofNat (0x8000 + 0x100 * x.val + 0x10 * y.val + operation.digit)⟩
  have single := operation.digit_lt
  have number : op.word.toNat = 0x8000 + 0x100 * x.val + 0x10 * y.val + operation.digit := by
    refine UInt16.toNat_ofNat'.trans (Nat.mod_eq_of_lt ?_)
    omega
  have same_x : op.x = .ofNat x.val := by
    rw [← UInt8.toNat_inj, op.toNat_x, number, UInt8.toNat_ofNat']
    omega
  have same_y : op.y = .ofNat y.val := by
    rw [← UInt8.toNat_inj, op.toNat_y, number, UInt8.toNat_ofNat']
    omega
  have family : op.family = 8 := by
    refine UInt8.toNat_inj.mp (op.toNat_family.trans ?_)
    change _ = 8
    omega
  have last : AluOp.ofNibble? op.n = some operation := by
    apply AluOp.ofNibble?_of_digit
    rw [op.toNat_n, number]
    omega
  change decode op = _
  rw [decode, ofOpcode?, family]
  change ((AluOp.ofNibble? op.n).map _).getD _ = _
  rw [last, same_x, same_y]
  rfl

/-! ## Words with the same instruction -/

/-- Two words stand for the same instruction only if they are the same, or belong to one of the
families that do not look at the last nibble and differ nowhere else. -/
theorem decode_eq_decode_iff :
    decode op = decode op' ↔ op.word.toNat = op'.word.toNat ∨
      (op.word.toNat / 0x1000 = 5 ∧ op'.word.toNat / 0x1000 = 5 ∨
        op.word.toNat / 0x1000 = 9 ∧ op'.word.toNat / 0x1000 = 9) ∧
      op.word.toNat / 0x10 = op'.word.toNat / 0x10 := by
  constructor
  · intro same
    have back := encode_decode op
    have back' := encode_decode op'
    have small := (decode_inRange op).nibble_lt
    rw [← same] at back'
    cases decoded : decode op with
    | skipIfSame x y | skipUnlessSame x y =>
        rw [decoded] at back back' small
        have hx : x.toNat < 16 := small x List.mem_cons_self
        have hy : y.toNat < 16 := small y (List.mem_cons_of_mem x List.mem_cons_self)
        simp only [encode] at back back'
        omega
    | _ =>
        rw [decoded] at back back'
        exact .inl (back.symm.trans back')
  · rintro (same | ⟨families, above⟩)
    · rw [Opcode.toNat_word_inj.mp same]
    · have same_x : op.x = op'.x := by
        rw [← UInt8.toNat_inj, op.toNat_x, op'.toNat_x]
        omega
      have same_y : op.y = op'.y := by
        rw [← UInt8.toNat_inj, op.toNat_y, op'.toNat_y]
        omega
      have same_family : op'.family = op.family := by
        rw [← UInt8.toNat_inj, op.toNat_family, op'.toNat_family]
        omega
      have five_or_nine : op.family = 5 ∨ op.family = 9 :=
        families.imp (fun five => UInt8.toNat_inj.mp (op.toNat_family.trans five.1))
          fun nine => UInt8.toNat_inj.mp (op.toNat_family.trans nine.1)
      unfold decode ofOpcode?
      rw [same_family, same_x, same_y]
      rcases five_or_nine with five | nine
      · rw [five]
        rfl
      · rw [nine]
        rfl

/-! ## Operands -/

/-- An address is what follows the first digit of the word. -/
theorem toNat_of_mem_addresses {target : UInt16} (named : target ∈ (decode op).addresses) :
    target.toNat = op.word.toNat % 0x1000 := by
  have back := encode_decode op
  have short := (decode_inRange op).address_lt target named
  cases decoded : decode op with
  | jump address | call address | setIndex address | jumpOffset address x =>
      rw [decoded] at named back
      obtain rfl : target = address := List.mem_singleton.mp named
      simp only [encode] at back
      omega
  | _ =>
      rw [decoded] at named
      cases named

/-- The register of a jump by a register is named by the first digit of its address. -/
theorem toNat_of_jumpOffset {base : UInt16} (jumps : decode op = .jumpOffset base x) :
    x.toNat = base.toNat / 0x100 := by
  have operands : base = op.nnn ∧ x = op.x := by
    rw [decode] at jumps
    cases decoded : ofOpcode? op with
    | none =>
        rw [decoded] at jumps
        cases jumps
    | some instruction =>
        rw [decoded] at jumps
        obtain rfl : instruction = .jumpOffset base x := jumps
        unfold ofOpcode? ofWord0? ofByteE? ofByteF? at decoded
        split at decoded <;> try split at decoded
        all_goals simp at decoded
        exact ⟨decoded.1.symm, decoded.2.symm⟩
  rw [operands.1, operands.2, op.toNat_x, op.toNat_nnn]
  omega

end Instruction

/-! ## Words in memory -/

namespace Memory

variable {memory : Memory} {address : UInt16} {op : Opcode}

/-- A word that was fetched consists of two bytes that can be read. -/
theorem read_of_fetch (fetched : memory.fetch address = .ok op) :
    ∃ high low, memory.read address 2 = .ok [high, low] ∧ op = .ofBytes high low := by
  rw [fetch] at fetched
  cases found : memory.read address 2 with
  | error fault =>
      rw [found] at fetched
      cases fetched
  | ok bytes =>
      obtain ⟨high, low, rfl⟩ := List.length_eq_two.mp (length_of_read (by decide) found)
      rw [found] at fetched
      exact ⟨high, low, rfl, (Except.ok.inj fetched).symm⟩

end Memory

namespace Instruction

/-- Decoding loses the nibble that two families do not look at, and nothing else. Registers and
the height of a sprite are single digits, an address is all of the word but its first digit, and
the register of a jump by a register is the first digit of its address. A word that means nothing
is kept. The last digit of a word and its instruction give back the word, and the two bytes that
it was fetched from. -/
theorem decoding_loses_only_ignored_nibble {memory memory' : Memory} {address address' : UInt16}
    {op op' : Opcode} (fetched : memory.fetch address = .ok op)
    (fetched' : memory'.fetch address' = .ok op') :
    let word := op.word.toNat
    let word' := op'.word.toNat
    (decode op = decode op' ↔ word = word' ∨
      (word / 0x1000 = 5 ∧ word' / 0x1000 = 5 ∨ word / 0x1000 = 9 ∧ word' / 0x1000 = 9) ∧
        word / 0x10 = word' / 0x10) ∧
    ((∀ nibble ∈ (decode op).nibbles, nibble.toNat < 0x10) ∧
      (∀ target ∈ (decode op).addresses, target.toNat = word % 0x1000) ∧
      (∀ base x, decode op = .jumpOffset base x → x.toNat = base.toNat / 0x100) ∧
      ∀ kept, decode op = .unknown kept → kept = op) ∧
    (∃ high low, memory.read address 2 = .ok [high, low] ∧
      word = 0x100 * high.toNat + low.toNat ∧ (decode op).encode (word % 0x10) = word) ∧
    (decode op = decode op' → word % 0x10 = word' % 0x10 →
      memory.read address 2 = memory'.read address' 2) := by
  intro word word'
  obtain ⟨high, low, found, rfl⟩ := Memory.read_of_fetch fetched
  obtain ⟨high', low', found', rfl⟩ := Memory.read_of_fetch fetched'
  have parts : word = 0x100 * high.toNat + low.toNat := Opcode.toNat_word_ofBytes high low
  have parts' : word' = 0x100 * high'.toNat + low'.toNat := Opcode.toNat_word_ofBytes high' low'
  refine ⟨decode_eq_decode_iff, ⟨(decode_inRange _).nibble_lt, fun _ => toNat_of_mem_addresses,
    fun _ _ => toNat_of_jumpOffset, fun _ => eq_of_decode_unknown⟩,
    ⟨high, low, found, parts, encode_decode _⟩, ?_⟩
  intro same last
  have back := encode_decode (.ofBytes high low)
  have back' := encode_decode (.ofBytes high' low')
  have whole : word = word' := by
    rw [← same] at back'
    change word % 0x10 = word' % 0x10 at last
    exact back.symm.trans ((congrArg _ last).trans back')
  have lows := low.toNat_lt
  have lows' := low'.toNat_lt
  have same_high : high = high' := UInt8.toNat_inj.mp (by omega)
  have same_low : low = low' := UInt8.toNat_inj.mp (by omega)
  rw [found, found', same_high, same_low]

/-- Two words of family nine that differ in the last nibble, one behind the other. -/
theorem decoding_loses_last_nibble_of_nine :
    ∃ memory : Memory, memory.fetch 0 = .ok ⟨0x9AB0⟩ ∧ memory.fetch 2 = .ok ⟨0x9AB7⟩ ∧
      decode ⟨0x9AB0⟩ = decode ⟨0x9AB7⟩ ∧ (decode ⟨0x9AB7⟩).encode 7 = 0x9AB7 := by
  let memory := (Memory.zeros 4).withOverlay 0 [0x9A, 0xB0, 0x9A, 0xB7]
  have first : memory.fetch 0 = .ok ⟨0x9AB0⟩ := by decide +kernel
  have second : memory.fetch 2 = .ok ⟨0x9AB7⟩ := by decide +kernel
  obtain ⟨same, -, -, -⟩ := decoding_loses_only_ignored_nibble first second
  obtain ⟨-, -, ⟨-, -, -, -, back⟩, -⟩ := decoding_loses_only_ignored_nibble second first
  exact ⟨memory, first, second, same.mpr (.inr ⟨.inr ⟨rfl, rfl⟩, rfl⟩), back⟩

end Instruction

end Chip8
