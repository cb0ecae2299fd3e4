import ByteMachine.Fault

/-!
# Registers

Eight registers of a byte each. The last of them is the stack pointer; it is a register like any
other, so a program that writes to it moves the stack. An operand byte may name a register that
does not exist, which `Register.ofByte` reports; behind it, registers are indices in range.
-/
namespace ByteMachine

/-- The index of a register. -/
abbrev Register := Fin 8

namespace Register

/-- The number of registers. -/
def count : Nat := 8

/-- The register that holds the stack pointer. -/
def stackPointer : Register := 7

/-- The register that an operand byte names. -/
def ofByte (b : UInt8) : Except Fault Register :=
  if h : b.toNat < count then .ok ⟨b.toNat, h⟩ else .error (.invalidRegister b)

theorem ofByte_of_lt {b : UInt8} (h : b.toNat < count) : ofByte b = .ok ⟨b.toNat, h⟩ := dif_pos h

theorem ofByte_of_ge {b : UInt8} (h : count ≤ b.toNat) :
    ofByte b = .error (.invalidRegister b) := dif_neg (Nat.not_lt.2 h)

theorem ofByte_eq_ok_iff {b : UInt8} {r : Register} : ofByte b = .ok r ↔ r.val = b.toNat := by
  by_cases h : b.toNat < count
  · simp [ofByte_of_lt h, Fin.ext_iff, eq_comm]
  · have hr : r.val ≠ b.toNat := fun e => h (e ▸ r.isLt)
    simp [ofByte_of_ge (Nat.not_lt.1 h), hr]

/-- What is done with the register that an operand names succeeds only if there is one. -/
theorem map_ofByte_eq_ok_iff {α : Type} {b : UInt8} {f : Register → α} {x : α} :
    (ofByte b).map f = .ok x ↔ ∃ r : Register, r.val = b.toNat ∧ f r = x := by
  constructor
  · intro h
    rcases hb : ofByte b with fault | r
    · simp [hb, Except.map] at h
    · exact ⟨r, ofByte_eq_ok_iff.1 hb, by simpa [hb, Except.map] using h⟩
  · rintro ⟨r, hr, rfl⟩
    rw [ofByte_eq_ok_iff.2 hr]
    rfl

end Register

/-- A byte for every register. -/
structure Registers where
  slots : Vector UInt8 8
  deriving DecidableEq

namespace Registers

/-- The content of a register. -/
def read (rs : Registers) (r : Register) : UInt8 := rs.slots[r]

/-- The registers with another content in one of them. -/
def write (rs : Registers) (r : Register) (v : UInt8) : Registers := ⟨rs.slots.set r v r.isLt⟩

theorem ext_read {rs ss : Registers} (h : ∀ r, rs.read r = ss.read r) : rs = ss := by
  obtain ⟨rs⟩ := rs
  obtain ⟨ss⟩ := ss
  congr
  exact Vector.ext fun i hi => h ⟨i, hi⟩

theorem read_write (rs : Registers) (r : Register) (v : UInt8) (s : Register) :
    (rs.write r v).read s = if r = s then v else rs.read s := by
  by_cases h : r = s
  · subst h
    simp [read, write]
  · have h' : r.val ≠ s.val := fun e => h (Fin.ext e)
    simp [read, write, h, h']

@[simp] theorem read_write_self (rs : Registers) (r : Register) (v : UInt8) :
    (rs.write r v).read r = v := by
  simp [read_write]

theorem read_write_of_ne (rs : Registers) {r s : Register} (v : UInt8) (h : r ≠ s) :
    (rs.write r v).read s = rs.read s := by
  simp [read_write, h]

/-- The contents of the registers from the first to the last. -/
def toList (rs : Registers) : List UInt8 := rs.slots.toList

@[simp] theorem length_toList (rs : Registers) : rs.toList.length = Register.count := by
  simp [toList, Register.count]

/-! ## The stack pointer -/

/-- The address in the stack pointer when the machine starts. The stack grows downwards. -/
def stackStart : UInt8 := 0xF4

/-- The registers when the machine starts: all zero but the stack pointer. -/
def start : Registers := ⟨(Vector.replicate 8 0).set 7 stackStart⟩

/-- The address in the stack pointer. -/
def sp (rs : Registers) : UInt8 := rs.read .stackPointer

/-- The registers with another address in the stack pointer. -/
def setSp (rs : Registers) (a : UInt8) : Registers := rs.write .stackPointer a

@[simp] theorem sp_start : start.sp = stackStart := rfl

@[simp] theorem sp_setSp (rs : Registers) (a : UInt8) : (rs.setSp a).sp = a :=
  read_write_self rs _ a

/-! ## Access by operand -/

/-- The content of the register that an operand names. -/
def get (rs : Registers) (index : UInt8) : Except Fault UInt8 :=
  (Register.ofByte index).map rs.read

/-- The registers with another content in the one that an operand names. -/
def set (rs : Registers) (index v : UInt8) : Except Fault Registers :=
  (Register.ofByte index).map fun r => rs.write r v

end Registers

end ByteMachine
