/-!
# Opcodes

The machine knows eleven opcodes. The byte of an opcode carries bit fields: the two highest bits
count the operands, bit 5 marks the arithmetic operations and bit 4 the instructions that may set
the program counter. The fields can be read off any byte, but a byte stands for an opcode only if it
is the byte of one, so decoding compares whole bytes and leaves the fields alone.
-/
namespace ByteMachine

/-- What an instruction does. -/
inductive Opcode where
  | hlt | ldi | prn | add | mul | cmp | push | pop | jmp | jeq | jne
  deriving DecidableEq, Repr

namespace Opcode

/-- The opcodes in table order. -/
def all : List Opcode := [hlt, ldi, prn, add, mul, cmp, push, pop, jmp, jeq, jne]

/-- The byte that stands for the opcode. -/
def byte : Opcode → UInt8
  | hlt => 0b00000001
  | ldi => 0b10000010
  | prn => 0b01000111
  | add => 0b10100000
  | mul => 0b10100010
  | cmp => 0b10100111
  | push => 0b01000101
  | pop => 0b01000110
  | jmp => 0b01010100
  | jeq => 0b01010101
  | jne => 0b01010110

/-- The opcode that a byte stands for, if there is one. -/
def ofByte? (b : UInt8) : Option Opcode := all.find? (·.byte == b)

@[simp] theorem ofByte?_byte (op : Opcode) : ofByte? op.byte = some op := by
  cases op <;> rfl

theorem byte_of_ofByte? {b : UInt8} {op : Opcode} (h : ofByte? b = some op) : op.byte = b := by
  simpa using List.find?_some h

theorem ofByte?_eq_some_iff {b : UInt8} {op : Opcode} : ofByte? b = some op ↔ op.byte = b :=
  ⟨byte_of_ofByte?, fun h => h ▸ ofByte?_byte op⟩

theorem byte_injective {op op' : Opcode} (h : op.byte = op'.byte) : op = op' := by
  simpa using congrArg ofByte? h

/-- The name of the opcode in assembly. -/
def mnemonic : Opcode → String
  | hlt => "HLT"
  | ldi => "LDI"
  | prn => "PRN"
  | add => "ADD"
  | mul => "MUL"
  | cmp => "CMP"
  | push => "PUSH"
  | pop => "POP"
  | jmp => "JMP"
  | jeq => "JEQ"
  | jne => "JNE"

/-- The opcode of that name, if there is one. -/
def ofMnemonic? (name : String) : Option Opcode := all.find? (·.mnemonic == name)

@[simp] theorem ofMnemonic?_mnemonic (op : Opcode) : ofMnemonic? op.mnemonic = some op := by
  cases op <;> decide

/-- The number of bytes of an instruction, the opcode byte included. -/
def length : Opcode → Nat
  | hlt => 1
  | ldi | add | mul | cmp => 3
  | prn | push | pop | jmp | jeq | jne => 2

theorem length_pos (op : Opcode) : 0 < op.length := by
  cases op <;> decide

theorem length_le (op : Opcode) : op.length ≤ 3 := by
  cases op <;> decide

/-! ## Bit fields of a byte -/

/-- The number of operands that the two highest bits announce. -/
def operandCount (b : UInt8) : Nat := (b >>> 6).toNat

/-- Whether bit 5 marks an arithmetic operation. -/
def usesAlu (b : UInt8) : Bool := b &&& 0b00100000 == 0b00100000

/-- Whether bit 4 marks an instruction that may set the program counter. -/
def setsPc (b : UInt8) : Bool := b &&& 0b00010000 == 0b00010000

/-- The length of an instruction is the one that its byte announces. -/
theorem length_eq_operandCount (op : Opcode) : op.length = 1 + operandCount op.byte := by
  cases op <;> rfl

end Opcode

end ByteMachine
