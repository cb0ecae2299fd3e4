import ByteMachine.Flags
import ByteMachine.Registers

/-!
# Arithmetic

The three operations of the arithmetic unit take two register operands. A sum or a product is
reduced modulo 256, replaces the left operand and leaves the flags alone; a comparison sets the
flags and leaves the registers alone.
-/
namespace ByteMachine

/-- An operation of the arithmetic unit. -/
inductive AluOp where
  | add | mul | cmp
  deriving DecidableEq, Repr

namespace AluOp

/-- The opcode of the operation. -/
def opcode : AluOp → Opcode
  | add => .add
  | mul => .mul
  | cmp => .cmp

/-- The operation of an opcode that has one. -/
def ofOpcode : Opcode → Except Fault AluOp
  | .add => .ok add
  | .mul => .ok mul
  | .cmp => .ok cmp
  | op => .error (.unsupportedOperation op)

@[simp] theorem ofOpcode_opcode (op : AluOp) : ofOpcode op.opcode = .ok op := by
  cases op <;> rfl

/-- The effect of the operation on registers that exist. -/
def applyTo (op : AluOp) (r s : Register) (rs : Registers) (fl : Flags) : Registers × Flags :=
  match op with
  | add => (rs.write r (rs.read r + rs.read s), fl)
  | mul => (rs.write r (rs.read r * rs.read s), fl)
  | cmp => (rs, .ofOrdering (compare (rs.read r) (rs.read s)))

/-- The effect of the operation on the registers that two operands name. The left operand is
looked at first. -/
def apply (op : AluOp) (a b : UInt8) (rs : Registers) (fl : Flags) :
    Except Fault (Registers × Flags) :=
  match Register.ofByte a, Register.ofByte b with
  | .error fault, _ => .error fault
  | .ok _, .error fault => .error fault
  | .ok r, .ok s => .ok (op.applyTo r s rs fl)

theorem apply_eq_ok_iff {op : AluOp} {a b : UInt8} {rs : Registers} {fl : Flags}
    {t : Registers × Flags} :
    op.apply a b rs fl = .ok t ↔
      ∃ r s : Register, r.val = a.toNat ∧ s.val = b.toNat ∧ op.applyTo r s rs fl = t := by
  simp only [← Register.ofByte_eq_ok_iff]
  rcases ha : Register.ofByte a with fault | r
  · simp [apply, ha]
  · rcases hb : Register.ofByte b with fault | s <;> simp [apply, ha, hb]

@[simp] theorem applyTo_add (r s : Register) (rs : Registers) (fl : Flags) :
    add.applyTo r s rs fl = (rs.write r (rs.read r + rs.read s), fl) := rfl

@[simp] theorem applyTo_mul (r s : Register) (rs : Registers) (fl : Flags) :
    mul.applyTo r s rs fl = (rs.write r (rs.read r * rs.read s), fl) := rfl

@[simp] theorem applyTo_cmp (r s : Register) (rs : Registers) (fl : Flags) :
    cmp.applyTo r s rs fl = (rs, .ofOrdering (compare (rs.read r) (rs.read s))) := rfl

end AluOp

end ByteMachine
