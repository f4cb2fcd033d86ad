/-
# Numerals

A natural number can be written in many ways: its decimal digits may have zeros before them, and
a plus before the zeros. All of them read back as the number, as long as it fits into 64 bits
with a sign. What makes this true is a law of the reader: digits that are read behind a value
continue it.
-/

import Chip8.Text.Integer
import Mathlib.Algebra.Order.Ring.Nat

namespace Chip8.Text

/-! ## Digits -/

theorem digit?_of_isDigit {c : Char} (isDigit : c.isDigit = true) :
    digit? c = some (c.toNat - '0'.toNat) := by
  have bounds : '0' ≤ c ∧ c ≤ '9' := by
    simp only [Char.isDigit, Bool.and_eq_true, decide_eq_true_eq] at isDigit
    exact isDigit
  exact if_pos bounds

/-- Further digits do not make a number smaller. -/
theorem le_ofDigitChars (digits : List Char) (value : Nat) :
    value ≤ Nat.ofDigitChars 10 digits value := by
  rw [Nat.ofDigitChars_eq_ofDigitChars_zero]
  have grown : 1 * value ≤ 10 ^ digits.length * value :=
    Nat.mul_le_mul_right value (Nat.one_le_pow' _ _)
  omega

/-- Digits continue a value, unless all of them together make it too large. -/
theorem appendDigits_eq {value : Nat} {digits : List Char}
    (areDigits : ∀ c ∈ digits, c.isDigit = true)
    (small : Nat.ofDigitChars 10 digits value < 2 ^ 63) :
    appendDigits value digits = .ok (Nat.ofDigitChars 10 digits value : Nat) := by
  induction digits generalizing value with
  | nil => rfl
  | cons c rest ih =>
      obtain ⟨isDigit, others⟩ := List.forall_mem_cons.mp areDigits
      rw [Nat.ofDigitChars_cons] at small ⊢
      have next_le := le_ofDigitChars rest (10 * value + (c.toNat - '0'.toNat))
      have fits : (10 * value + (c.toNat - '0'.toNat : Nat) : Int) < 2 ^ 63 := by omega
      -- The reader takes one digit, which still fits because all of them do.
      conv_lhs => whnf
      simp only [digit?_of_isDigit isDigit, if_pos fits]
      exact_mod_cast ih others small

/-! ## Numbers -/

/-- The decimal digits of a number, behind so many zeros. -/
def paddedDigits (zeros value : Nat) : List Char :=
  List.replicate zeros '0' ++ Nat.toDigits 10 value

/-- A number in decimal digits, with zeros before them, and with a plus or without. -/
def numeral (plus : Bool) (zeros value : Nat) : String :=
  String.ofList (if plus then '+' :: paddedDigits zeros value else paddedDigits zeros value)

theorem isDigit_of_mem_paddedDigits {zeros value : Nat} {c : Char}
    (listed : c ∈ paddedDigits zeros value) : c.isDigit = true := by
  rcases List.mem_append.mp listed with zero | digit
  · rw [List.eq_of_mem_replicate zero]
    rfl
  · exact Nat.isDigit_of_mem_toDigits (by decide) (by decide) digit

theorem ofDigitChars_paddedDigits (zeros value : Nat) :
    Nat.ofDigitChars 10 (paddedDigits zeros value) 0 = value := by
  rw [paddedDigits, Nat.ofDigitChars_append, Nat.ofDigitChars_replicate_zero, Nat.mul_zero,
    Nat.ofDigitChars_ten_toDigits]

theorem exists_paddedDigits_eq_cons (zeros value : Nat) :
    ∃ c rest, paddedDigits zeros value = c :: rest ∧ c.isDigit = true := by
  have some_digit : paddedDigits zeros value ≠ [] :=
    List.append_ne_nil_of_right_ne_nil _ Nat.toDigits_ne_nil
  obtain ⟨c, rest, digits_eq⟩ := List.exists_cons_of_ne_nil some_digit
  exact ⟨c, rest, digits_eq, isDigit_of_mem_paddedDigits (digits_eq ▸ List.mem_cons_self)⟩

/-- A numeral begins with a plus or with a digit. -/
theorem exists_toList_numeral_eq_cons (plus : Bool) (zeros value : Nat) :
    ∃ c rest, (numeral plus zeros value).toList = c :: rest ∧ (c = '+' ∨ c.isDigit = true) := by
  rw [numeral, String.toList_ofList]
  cases plus with
  | true => exact ⟨'+', _, rfl, .inl rfl⟩
  | false =>
      obtain ⟨c, rest, digits_eq, isDigit⟩ := exists_paddedDigits_eq_cons zeros value
      exact ⟨c, rest, digits_eq, .inr isDigit⟩

/-- Numerals read back as the numbers that they stand for. -/
theorem parseInteger_numeral (plus : Bool) (zeros : Nat) {value : Nat} (small : value < 2 ^ 63) :
    parseInteger (numeral plus zeros value) = .ok value := by
  have read : appendDigits 0 (paddedDigits zeros value) = .ok value := by
    have continued : appendDigits (0 : Nat) (paddedDigits zeros value) = _ :=
      appendDigits_eq (fun c => isDigit_of_mem_paddedDigits)
        (by rwa [ofDigitChars_paddedDigits])
    rwa [ofDigitChars_paddedDigits] at continued
  obtain ⟨c, rest, digits_eq, isDigit⟩ := exists_paddedDigits_eq_cons zeros value
  rw [parseInteger, numeral, String.toList_ofList]
  rw [digits_eq] at read ⊢
  cases plus with
  | true => exact read
  | false =>
      -- A digit is no sign.
      have noPlus : c ≠ '+' := by rintro rfl; exact absurd isDigit (by decide)
      have noMinus : c ≠ '-' := by rintro rfl; exact absurd isDigit (by decide)
      simp only [Bool.false_eq_true, if_false]
      split <;> simp_all

end Chip8.Text
