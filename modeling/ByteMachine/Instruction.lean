import ByteMachine.Arithmetic
import ByteMachine.Memory

/-!
# Instructions

An instruction is an opcode with the operands that the opcode takes, so no instruction has an
operand without a meaning. `Instruction.bytes` is its encoding and `Instruction.decode` reads one
from memory. Decoding looks at the byte at the address and then only at the operand bytes that
belong to it; behind the last address comes address 0.
-/
namespace ByteMachine

/-- When a jump is taken. -/
inductive Condition where
  | always | ifEqual | ifUnequal
  deriving DecidableEq, Repr

namespace Condition

/-- Whether a jump is taken under the flags. -/
def holds : Condition → Flags → Bool
  | always, _ => true
  | ifEqual, fl => fl.equal
  | ifUnequal, fl => !fl.equal

/-- The opcode of a jump under the condition. -/
def opcode : Condition → Opcode
  | always => .jmp
  | ifEqual => .jeq
  | ifUnequal => .jne

end Condition

/-- The mark of a jump is on the bytes of jumps only. -/
theorem Opcode.setsPc_byte_iff {op : Opcode} :
    setsPc op.byte = true ↔ ∃ c : Condition, op = c.opcode := by
  constructor
  · intro h
    cases op with
    | jmp => exact ⟨.always, rfl⟩
    | jeq => exact ⟨.ifEqual, rfl⟩
    | jne => exact ⟨.ifUnequal, rfl⟩
    | _ => exact absurd h (by decide)
  · rintro ⟨c, rfl⟩
    cases c <;> decide

/-- An instruction. The operands are bytes; whether one names a register is found out only when the
instruction needs that register. -/
inductive Instruction where
  /-- Stop. -/
  | halt
  /-- Put a value into a register. -/
  | load (target value : UInt8)
  /-- Write the content of a register as a decimal line. -/
  | print (source : UInt8)
  /-- Apply an arithmetic operation to two registers. -/
  | alu (op : AluOp) (left right : UInt8)
  /-- Push the content of a register. -/
  | push (source : UInt8)
  /-- Pop into a register. -/
  | pop (target : UInt8)
  /-- Go on at the address in a register if the condition holds. -/
  | jump (condition : Condition) (target : UInt8)
  deriving DecidableEq, Repr

namespace Instruction

/-- The opcode of the instruction. -/
def opcode : Instruction → Opcode
  | halt => .hlt
  | load _ _ => .ldi
  | print _ => .prn
  | alu op _ _ => op.opcode
  | push _ => .push
  | pop _ => .pop
  | jump condition _ => condition.opcode

/-- The operand bytes in order. -/
def operands : Instruction → List UInt8
  | halt => []
  | load target value => [target, value]
  | print source => [source]
  | alu _ left right => [left, right]
  | push source => [source]
  | pop target => [target]
  | jump _ target => [target]

/-- The number of bytes of the instruction. -/
def length (i : Instruction) : Nat := i.opcode.length

/-- The encoding of the instruction. -/
def bytes (i : Instruction) : List UInt8 := i.opcode.byte :: i.operands

@[simp] theorem length_bytes (i : Instruction) : i.bytes.length = i.length := by
  cases i with
  | alu op => cases op <;> rfl
  | jump condition => cases condition <;> rfl
  | _ => rfl

/-- The instruction of an opcode, with as many of the two operands as the opcode takes. -/
def ofOpcode (op : Opcode) (a b : UInt8) : Instruction :=
  match op with
  | .hlt => halt
  | .ldi => load a b
  | .prn => print a
  | .add => alu .add a b
  | .mul => alu .mul a b
  | .cmp => alu .cmp a b
  | .push => push a
  | .pop => pop a
  | .jmp => jump .always a
  | .jeq => jump .ifEqual a
  | .jne => jump .ifUnequal a

@[simp] theorem opcode_ofOpcode (op : Opcode) (a b : UInt8) : (ofOpcode op a b).opcode = op := by
  cases op <;> rfl

@[simp] theorem operands_ofOpcode (op : Opcode) (a b : UInt8) :
    (ofOpcode op a b).operands = [a, b].take (op.length - 1) := by
  cases op <;> rfl

theorem ofOpcode_condition (c : Condition) (a b : UInt8) : ofOpcode c.opcode a b = jump c a := by
  cases c <;> rfl

/-- The instruction at an address. -/
def decode (m : Memory) (pc : UInt8) : Except Fault Instruction :=
  match Opcode.ofByte? (m.read pc) with
  | some op => .ok (ofOpcode op (m.read (pc + 1)) (m.read (pc + 2)))
  | none => .error (.illegalInstruction (m.read pc) pc)

theorem decode_of_ofByte? {m : Memory} {pc : UInt8} {op : Opcode}
    (h : Opcode.ofByte? (m.read pc) = some op) :
    decode m pc = .ok (ofOpcode op (m.read (pc + 1)) (m.read (pc + 2))) := by
  simp [decode, h]

theorem decode_of_ofByte?_eq_none {m : Memory} {pc : UInt8}
    (h : Opcode.ofByte? (m.read pc) = none) :
    decode m pc = .error (.illegalInstruction (m.read pc) pc) := by
  simp [decode, h]

theorem decode_eq_ok_iff {m : Memory} {pc : UInt8} {i : Instruction} :
    decode m pc = .ok i ↔
      ∃ op : Opcode, op.byte = m.read pc ∧ ofOpcode op (m.read (pc + 1)) (m.read (pc + 2)) = i := by
  simp only [← Opcode.ofByte?_eq_some_iff]
  rcases hb : Opcode.ofByte? (m.read pc) with _ | op <;> simp [decode, hb]

end Instruction

end ByteMachine
