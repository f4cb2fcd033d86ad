/-
# Instructions as text

An instruction is written as its name, followed by its operands in decimal,
in parentheses and separated by commas; an instruction without operands is its
name alone. The pair of name and operands determines the instruction, and
`ofParts?` reads it back.
-/

import Chip8.Instruction

namespace Chip8

/-- The name of an operation of the family `8XY_`. -/
def AluOp.name : AluOp → String
  | .copy => "CopyRegister"
  | .or => "Or"
  | .and => "And"
  | .xor => "XOr"
  | .add => "Add"
  | .subtract => "SubtractForward"
  | .shiftRight => "RightShift"
  | .subtractFrom => "SubtractBackward"
  | .shiftLeft => "LeftShift"

/-- All operations of the family `8XY_`. -/
def AluOp.all : List AluOp :=
  [.copy, .or, .and, .xor, .add, .subtract, .shiftRight, .subtractFrom, .shiftLeft]

namespace Instruction

/-- The name of an instruction. -/
def name : Instruction → String
  | .clearScreen => "ClearScreen"
  | .ret => "PopSubroutine"
  | .jump _ => "Jump"
  | .call _ => "PushSubroutine"
  | .skipIfByte _ _ => "SkipEqualConstant"
  | .skipUnlessByte _ _ => "SkipNotEqualConstant"
  | .skipIfSame _ _ => "SkipEqualRegister"
  | .skipUnlessSame _ _ => "SkipNotEqualRegister"
  | .setByte _ _ => "SetRegister"
  | .addByte _ _ => "AddToRegister"
  | .alu op _ _ => op.name
  | .setIndex _ => "SetIndexRegister"
  | .jumpOffset _ _ => "JumpWithOffset"
  | .random _ _ => "Random"
  | .draw _ _ _ => "Display"
  | .skipIfKey _ => "SkipIfPressed"
  | .skipUnlessKey _ => "SkipIfNotPressed"
  | .readDelay _ => "CopyDelayToRegister"
  | .awaitKey _ => "GetKey"
  | .setDelay _ => "CopyRegisterToDelay"
  | .setSound _ => "CopyRegisterToSound"
  | .addIndex _ => "AddToIndex"
  | .pointGlyph _ => "PointChar"
  | .storeDigits _ => "ToDecimal"
  | .storeRegisters _ => "StoreRegisterToMemory"
  | .loadRegisters _ => "LoadRegisterFromMemory"
  | .unknown _ => "Unknown"

/-- The operands of an instruction in the order in which they are written. -/
def operands : Instruction → List Nat
  | .clearScreen | .ret => []
  | .jump target | .call target | .setIndex target => [target.toNat]
  | .skipIfByte x value | .skipUnlessByte x value | .setByte x value | .addByte x value =>
      [x.toNat, value.toNat]
  | .skipIfSame x y | .skipUnlessSame x y | .alu _ x y => [x.toNat, y.toNat]
  | .jumpOffset base x => [base.toNat, x.toNat]
  | .random x mask => [x.toNat, mask.toNat]
  | .draw x y height => [x.toNat, y.toNat, height.toNat]
  | .skipIfKey x | .skipUnlessKey x | .readDelay x | .awaitKey x | .setDelay x | .setSound x
  | .addIndex x | .pointGlyph x | .storeDigits x | .storeRegisters x | .loadRegisters x =>
      [x.toNat]
  | .unknown op => [op.word.toNat]

/-- The written form of an instruction. The operand of an unknown word names
what it is. -/
def text (instruction : Instruction) : String :=
  match instruction, instruction.operands with
  | .unknown op, _ => s!"Unknown(Opcode({op.word.toNat}))"
  | _, [] => instruction.name
  | _, operands => instruction.name ++ "(" ++ ", ".intercalate (operands.map toString) ++ ")"

/-- The instructions that take given operands, one of each name. -/
def taking : List Nat → List Instruction
  | [] => [.clearScreen, .ret]
  | [a] =>
      [.jump (.ofNat a), .call (.ofNat a), .setIndex (.ofNat a), .skipIfKey (.ofNat a),
        .skipUnlessKey (.ofNat a), .readDelay (.ofNat a), .awaitKey (.ofNat a),
        .setDelay (.ofNat a), .setSound (.ofNat a), .addIndex (.ofNat a),
        .pointGlyph (.ofNat a), .storeDigits (.ofNat a), .storeRegisters (.ofNat a),
        .loadRegisters (.ofNat a), .unknown ⟨.ofNat a⟩]
  | [a, b] =>
      [.skipIfByte (.ofNat a) (.ofNat b), .skipUnlessByte (.ofNat a) (.ofNat b),
        .skipIfSame (.ofNat a) (.ofNat b), .skipUnlessSame (.ofNat a) (.ofNat b),
        .setByte (.ofNat a) (.ofNat b), .addByte (.ofNat a) (.ofNat b),
        .jumpOffset (.ofNat a) (.ofNat b), .random (.ofNat a) (.ofNat b)] ++
      AluOp.all.map fun op => .alu op (.ofNat a) (.ofNat b)
  | [a, b, c] => [.draw (.ofNat a) (.ofNat b) (.ofNat c)]
  | _ => []

/-- The instruction with a name and operands, if there is one. -/
def ofParts? (name : String) (operands : List Nat) : Option Instruction :=
  (taking operands).find? (·.name == name)

end Instruction

end Chip8
