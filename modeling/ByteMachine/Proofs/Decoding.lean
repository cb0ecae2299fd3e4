import ByteMachine.Proofs.Encoding

/-!
# Decoding at an address

An instruction is decoded at an address exactly if its encoding is in memory there, whether or not
it goes on behind the last address. So what is decoded depends on these cells only, and what is
written is what is decoded. To compare with an instruction that has room for two operands whatever
its opcode is, it is told by its fields, where operands that the opcode does not take are zero.
-/
namespace ByteMachine

/-! ## Writing bytes -/

namespace Memory

variable {m : Memory} {a b : UInt8} {bytes : List UInt8}

/-- The cells before and behind the bytes that are written keep their contents. -/
theorem read_writeFrom_of_ne (outside : ∀ i < bytes.length, a + UInt8.ofNat i ≠ b) :
    (m.writeFrom a bytes).read b = m.read b := by
  induction bytes generalizing m a with
  | nil => rfl
  | cons v bytes ih =>
    have first : a ≠ b := by simpa using outside 0 (by simp)
    rw [writeFrom, ih, read_write_of_ne m v first]
    intro i hi
    rw [add_one_add_ofNat]
    exact outside (i + 1) (by simpa using hi)

/-- Bytes that are written are in memory, if there are not so many that they meet themselves. -/
theorem stores_writeFrom (fits : bytes.length ≤ size) : (m.writeFrom a bytes).Stores a bytes := by
  induction bytes generalizing m a with
  | nil => trivial
  | cons v bytes ih =>
    rw [List.length_cons, size] at fits
    refine ⟨?_, ih (Nat.le_of_succ_le fits)⟩
    have behind : ∀ i < bytes.length, a + 1 + UInt8.ofNat i ≠ a := by
      intro i hi same
      have round := congrArg UInt8.toNat same
      rw [add_one_add_ofNat, UInt8.toNat_add, UInt8.toNat_ofNat'] at round
      omega
    rw [writeFrom, read_writeFrom_of_ne behind, read_write_self]

end Memory

namespace Instruction

variable {m : Memory} {a : UInt8} {i : Instruction}

/-! ## Fields -/

/-- An opcode with two operands, be they taken by the opcode or not. -/
structure Fields where
  opcode : Opcode
  first : UInt8
  second : UInt8
  deriving DecidableEq, Repr

/-- The operands that the opcode does not take are zero. -/
structure Fields.Clear (f : Fields) : Prop where
  first : f.opcode.length < 2 → f.first = 0
  second : f.opcode.length < 3 → f.second = 0

/-- The byte of the opcode, and behind it the operands that the opcode takes. -/
def Fields.bytes (f : Fields) : List UInt8 :=
  f.opcode.byte :: [f.first, f.second].take (f.opcode.length - 1)

/-- The fields of an instruction. -/
def fields (i : Instruction) : Fields where
  opcode := i.opcode
  first := i.operands[0]?.getD 0
  second := i.operands[1]?.getD 0

theorem length_operands (i : Instruction) : i.operands.length = i.length - 1 := by
  rw [← length_bytes, bytes, List.length_cons, Nat.add_sub_cancel]

theorem clear_fields (i : Instruction) : i.fields.Clear where
  first short := by
    have none : i.operands.length ≤ 0 := by
      rw [length_operands]
      exact Nat.sub_le_of_le_add (Nat.le_of_lt_succ short)
    rw [fields, List.getElem?_eq_none none, Option.getD_none]
  second short := by
    have few : i.operands.length ≤ 1 := by
      rw [length_operands]
      exact Nat.sub_le_of_le_add (Nat.le_of_lt_succ short)
    rw [fields, List.getElem?_eq_none few, Option.getD_none]

theorem bytes_fields (i : Instruction) : i.fields.bytes = i.bytes := by
  cases i with
  | alu op => cases op <;> rfl
  | jump condition => cases condition <;> rfl
  | _ => rfl

/-- Fields are those of an instruction if nothing is in them that the opcode does not take. -/
theorem fields_ofOpcode {f : Fields} (h : f.Clear) :
    (ofOpcode f.opcode f.first f.second).fields = f := by
  obtain ⟨op, x, y⟩ := f
  obtain ⟨first, second⟩ := h
  cases op with
  | hlt =>
    obtain rfl : x = 0 := first Nat.one_lt_two
    obtain rfl : y = 0 := second (Nat.lt_succ_of_lt Nat.one_lt_two)
    rfl
  | ldi | add | mul | cmp => rfl
  | prn | push | pop | jmp | jeq | jne =>
    obtain rfl : y = 0 := second (Nat.lt_succ_self 2)
    rfl

/-! ## Decoding -/

/-- What is decoded is in memory as it is encoded. -/
theorem stores_of_decode (h : decode m a = .ok i) : m.Stores a i.bytes := by
  obtain ⟨op, first, rfl⟩ := decode_eq_ok_iff.1 h
  have second : a + 1 + 1 = a + 2 := by
    rw [UInt8.add_assoc]
    rfl
  have both : m.Stores (a + 1) [m.read (a + 1), m.read (a + 2)] := ⟨rfl, by rw [second], trivial⟩
  rw [← List.take_append_drop (op.length - 1) [_, _], Memory.stores_append] at both
  rw [bytes, opcode_ofOpcode, operands_ofOpcode]
  exact ⟨first.symm, both.1⟩

/-- Decoding and encoding are inverse to each other at every address. If an instruction is decoded,
the cells from the address on hold its encoding, which is as long as the instruction; an operand
that its opcode does not take is zero; and it is decoded in every memory that agrees on these cells.
All fields of which this can be said are those of an instruction, which is decoded where they are
written. -/
theorem decoding_inverts_encoding (m : Memory) (a : UInt8) :
    (∀ i, decode m a = .ok i →
      m.Stores a i.fields.bytes ∧ i.fields.bytes.length = i.length ∧ i.fields.Clear ∧
      ∀ m' : Memory,
        (∀ j < i.length, m'.read (a + UInt8.ofNat j) = m.read (a + UInt8.ofNat j)) →
        decode m' a = .ok i) ∧
    ∀ f : Fields, f.Clear → ∃ i, i.fields = f ∧ decode (m.writeFrom a f.bytes) a = .ok i := by
  refine ⟨?_, ?_⟩
  · intro i decoded
    have stored := stores_of_decode decoded
    rw [bytes_fields]
    refine ⟨stored, length_bytes i, clear_fields i, ?_⟩
    intro m' same
    rw [← length_bytes] at same
    exact decode_of_stores (Memory.Stores.congr stored same)
  · intro f clear
    have whole := fields_ofOpcode clear
    refine ⟨ofOpcode f.opcode f.first f.second, whole, decode_of_stores ?_⟩
    have encoded : f.bytes = (ofOpcode f.opcode f.first f.second).bytes := by
      rw [← bytes_fields, whole]
    have short : f.bytes.length ≤ Memory.size := by
      rw [encoded, length_bytes]
      exact Nat.le_trans (Opcode.length_le _) (by decide)
    rw [← encoded]
    exact Memory.stores_writeFrom short

/-- A load at the last address, with its operands at the first two. -/
def loadsAcrossTop : Memory := (Memory.zero.overlay [3, 7, 0x01]).write 0xFF 0x82

/-- The load does not depend on the byte behind it, and a print may be written over it. -/
theorem loadsAcrossTop_is_decoded :
    decode loadsAcrossTop 0xFF = .ok (.load 3 7) ∧ loadsAcrossTop.Stores 0xFF [0x82, 3, 7] ∧
      decode (loadsAcrossTop.write 2 0xA0) 0xFF = .ok (.load 3 7) ∧
      ∃ i, i.fields = ⟨.prn, 5, 0⟩ ∧
        decode (loadsAcrossTop.writeFrom 0xFF [0x47, 5]) 0xFF = .ok i := by
  have decoded : decode loadsAcrossTop 0xFF = .ok (.load 3 7) := by decide +kernel
  have ⟨read, written⟩ := decoding_inverts_encoding loadsAcrossTop 0xFF
  have ⟨stored, _, _, elsewhere⟩ := read _ decoded
  have apart : ∀ j < 3, (loadsAcrossTop.write 2 0xA0).read (0xFF + UInt8.ofNat j) =
      loadsAcrossTop.read (0xFF + UInt8.ofNat j) := by
    decide +kernel
  exact ⟨decoded, stored, elsewhere _ apart, written ⟨.prn, 5, 0⟩ ⟨by decide, by decide⟩⟩

end Instruction

end ByteMachine
