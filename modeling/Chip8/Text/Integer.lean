/-
# Reading 64-bit integers

Decimal integers with an optional sign, read from left to right. Leading zeros
are fine. The first digit at which reading cannot go on decides what is wrong:
a character that is no digit, or a value that no longer fits into 64 bits.
-/

namespace Chip8.Text

/-- Why a text is not a 64-bit integer. -/
inductive IntegerError where
  | empty
  | invalidDigit
  | tooLarge
  | tooSmall
  deriving DecidableEq, Repr

/-- The wording of what is wrong. -/
def IntegerError.message : IntegerError → String
  | .empty => "cannot parse integer from empty string"
  | .invalidDigit => "invalid digit found in string"
  | .tooLarge => "number too large to fit in target type"
  | .tooSmall => "number too small to fit in target type"

/-- The value of a decimal digit. -/
def digit? (c : Char) : Option Nat :=
  if '0' ≤ c ∧ c ≤ '9' then some (c.toNat - '0'.toNat) else none

/-- Continue an integer that is at least zero by further digits. -/
def appendDigits (value : Int) : List Char → Except IntegerError Int
  | [] => .ok value
  | c :: rest =>
      match digit? c with
      | none => .error .invalidDigit
      | some digit =>
          let next := 10 * value + digit
          if next < 2 ^ 63 then appendDigits next rest else .error .tooLarge

/-- Continue an integer that is at most zero by further digits. -/
def appendNegativeDigits (value : Int) : List Char → Except IntegerError Int
  | [] => .ok value
  | c :: rest =>
      match digit? c with
      | none => .error .invalidDigit
      | some digit =>
          let next := 10 * value - digit
          if -2 ^ 63 ≤ next then appendNegativeDigits next rest else .error .tooSmall

/-- Read an integer. A sign alone lacks a digit. -/
def parseInteger (text : String) : Except IntegerError Int :=
  match text.toList with
  | [] => .error .empty
  | ['+'] | ['-'] => .error .invalidDigit
  | '+' :: digits => appendDigits 0 digits
  | '-' :: digits => appendNegativeDigits 0 digits
  | digits => appendDigits 0 digits

end Chip8.Text
