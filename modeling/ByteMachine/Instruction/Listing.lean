import ByteMachine.Instruction

/-!
# Assembly listing

The text of an instruction is its mnemonic and, behind a space, its operands with a comma between
them. A register is an `R` with the operand in decimal, whether or not the machine has it; the value
of a load is the bare number.
-/
namespace ByteMachine.Instruction

/-- A register operand as text. -/
def registerText (index : UInt8) : String := "R" ++ Numeral.decimal index.toNat

/-- The operands as text, with the space in front of them. -/
def operandText : Instruction → String
  | halt => ""
  | load target value => " " ++ registerText target ++ "," ++ Numeral.decimal value.toNat
  | alu _ left right => " " ++ registerText left ++ "," ++ registerText right
  | print operand | push operand | pop operand | jump _ operand => " " ++ registerText operand

/-- The instruction as a line of assembly. -/
def text (i : Instruction) : String := i.opcode.mnemonic ++ i.operandText

end ByteMachine.Instruction
