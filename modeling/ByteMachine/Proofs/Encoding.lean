import ByteMachine.Machine
import ByteMachine.Proofs.Layout

/-!
# Encoded programs

A program is a list of instructions, and its image is their encodings one behind the other. Written
down as a source, in whatever layout, and loaded into a machine, the image is decoded from address 0
on as the same instructions, one after the other; behind it nothing can be decoded
(`source_decodes_to_program`). Instructions have no length in common, so each of them is found only
if all before it are.
-/
namespace ByteMachine

/-! ## Bytes in memory -/

/-- The address behind so many addresses after the next one. -/
theorem add_one_add_ofNat (a : UInt8) (n : Nat) :
    a + 1 + UInt8.ofNat n = a + UInt8.ofNat (n + 1) := by
  rw [UInt8.ofNat_add, UInt8.add_assoc, UInt8.add_comm 1]
  rfl

namespace Memory

/-- The bytes are in memory from an address on; behind the last address comes address 0. -/
def Stores (m : Memory) : UInt8 → List UInt8 → Prop
  | _, [] => True
  | a, b :: bytes => m.read a = b ∧ m.Stores (a + 1) bytes

variable {m m' : Memory} {a : UInt8} {bytes : List UInt8}

theorem stores_append {front back : List UInt8} :
    m.Stores a (front ++ back) ↔
      m.Stores a front ∧ m.Stores (a + UInt8.ofNat front.length) back := by
  induction front generalizing a with
  | nil => simp [Stores]
  | cons b front ih =>
    simp only [List.cons_append, Stores, ih, add_one_add_ofNat, List.length_cons, and_assoc]

/-- Bytes stay in memory as long as the cells in which they lie keep their contents. -/
theorem Stores.congr (h : m.Stores a bytes)
    (same : ∀ i < bytes.length, m'.read (a + UInt8.ofNat i) = m.read (a + UInt8.ofNat i)) :
    m'.Stores a bytes := by
  induction bytes generalizing a with
  | nil => trivial
  | cons b bytes ih =>
    obtain ⟨first, later⟩ := h
    refine ⟨?_, ih later ?_⟩
    · have here : m'.read a = m.read a := by simpa using same 0 (by simp)
      rw [here, first]
    · intro i hi
      rw [add_one_add_ofNat]
      exact same (i + 1) (by simpa using hi)

theorem stores_of_getElem?
    (h : ∀ i b, bytes[i]? = some b → m.read (a + UInt8.ofNat i) = b) : m.Stores a bytes := by
  induction bytes generalizing a with
  | nil => trivial
  | cons b bytes ih =>
    refine ⟨by simpa using h 0 b rfl, ih ?_⟩
    intro i c hc
    rw [add_one_add_ofNat]
    exact h (i + 1) c hc

/-- An image that fits is in memory from address 0 on. -/
theorem stores_overlay {image : List UInt8} (fits : image.length ≤ size) :
    (m.overlay image).Stores 0 image := by
  refine stores_of_getElem? ?_
  intro i b hb
  have small : i < 256 := Nat.lt_of_lt_of_le (List.getElem?_eq_some_iff.1 hb).1 fits
  rw [UInt8.zero_add, read_overlay, UInt8.toNat_ofNat_of_lt' small, hb, Option.getD_some]

theorem read_overlay_of_le {image : List UInt8} (behind : image.length ≤ a.toNat) :
    (m.overlay image).read a = m.read a := by
  rw [read_overlay, List.getElem?_eq_none behind, Option.getD_none]

end Memory

/-! ## Instructions in memory -/

namespace Instruction

variable {m : Memory} {a : UInt8}

/-- An encoding in memory is decoded as its instruction. -/
theorem decode_of_stores {i : Instruction} (h : m.Stores a i.bytes) : decode m a = .ok i := by
  have second : a + 1 + 1 = a + 2 := by
    rw [UInt8.add_assoc]
    rfl
  obtain ⟨first, operands⟩ := h
  have decodes : Opcode.ofByte? (m.read a) = some i.opcode := by rw [first, Opcode.ofByte?_byte]
  rw [decode_of_ofByte? decodes, ← second]
  congr 1
  cases i with
  | halt => rfl
  | load target value =>
    obtain ⟨rfl, rfl, -⟩ := operands
    rfl
  | print source | push source | pop target =>
    obtain ⟨rfl, -⟩ := operands
    rfl
  | alu op left right =>
    obtain ⟨rfl, rfl, -⟩ := operands
    cases op <;> rfl
  | jump condition target =>
    obtain ⟨rfl, -⟩ := operands
    exact ofOpcode_condition _ _ _

/-- As many instructions as are asked for, from an address on, each right behind the one before. -/
def decodeFrom (m : Memory) : Nat → UInt8 → Except Fault (List Instruction)
  | 0, _ => .ok []
  | n + 1, a => do
    let i ← decode m a
    let rest ← decodeFrom m n (a + UInt8.ofNat i.length)
    return i :: rest

theorem decodeFrom_of_stores {program : List Instruction}
    (h : m.Stores a (program.flatMap bytes)) : decodeFrom m program.length a = .ok program := by
  induction program generalizing a with
  | nil => rfl
  | cons i program ih =>
    obtain ⟨here, later⟩ := Memory.stores_append.1 h
    rw [length_bytes] at later
    rw [List.length_cons, decodeFrom, decode_of_stores here]
    simp only [bind, Except.bind, ih later]
    rfl

end Instruction

/-! ## Eight digits to a byte -/

/-- A line with nothing on it but eight digits for a byte. -/
def Source.Line.plain (b : UInt8) : Source.Line :=
  .byte .empty false (8 - (Numeral.digits 2 b.toNat).length) b .nothing

theorem Source.Line.chars_plain (b : UInt8) :
    (Source.Line.plain b).chars = Numeral.padded 2 8 b.toNat := by
  simp [plain, chars, Gap.empty, numeral, digitsOf, Trailer.chars, Numeral.padded]

theorem Source.Line.length_chars_plain (b : UInt8) : (Source.Line.plain b).chars.length = 8 := by
  rw [chars_plain]
  exact Numeral.length_padded_of_lt (by decide) (by decide) b.toNat_lt

/-! ## From the source to the program -/

/-- A program survives being written down, read and loaded. Laid out in any way, its image is read
back from the source, for instance with eight digits to a line and comments and blank lines between;
any machine loads it, whatever it has done before; and from address 0 on the instructions of the
program are decoded and no others, each behind the one before, while nothing behind the image can be
decoded. -/
theorem source_decodes_to_program (program : List Instruction)
    (fits : (program.flatMap Instruction.bytes).length ≤ 256) (l : Source.Layout)
    (h : l.bytes = program.flatMap Instruction.bytes) :
    Source.parse (String.ofList l.chars) = .ok (program.flatMap Instruction.bytes) ∧
      ∀ (σ : Type) (m : Machine) (k : σ),
        let o := m.load (program.flatMap Instruction.bytes) k
        o.result = .ok () ∧
          Instruction.decodeFrom o.machine.state.memory program.length 0 = .ok program ∧
          ∀ a : UInt8, (program.flatMap Instruction.bytes).length ≤ a.toNat →
            o.machine.state.memory.read a = 0 ∧
              Instruction.decode o.machine.state.memory a = .error (.illegalInstruction 0 a) := by
  refine ⟨?_, ?_⟩
  · rw [← h] at fits ⊢
    exact l.parse_chars fits
  · intro σ m k
    rw [Machine.load_of_le fits]
    refine ⟨rfl, Instruction.decodeFrom_of_stores (Memory.stores_overlay fits), ?_⟩
    intro a behind
    have empty : (Memory.zero.overlay (program.flatMap Instruction.bytes)).read a = 0 := by
      rw [Memory.read_overlay_of_le behind, Memory.read_zero]
    refine ⟨empty, ?_⟩
    have undecodable : Opcode.ofByte?
        ((Memory.zero.overlay (program.flatMap Instruction.bytes)).read a) = none := by
      rw [empty]
      rfl
    exact (Instruction.decode_of_ofByte?_eq_none undecodable).trans (by rw [empty])

/-- Loads a value into a register that does not exist, and jumps if the values are equal. -/
def loadsNowhere : List Instruction := [.load 8 3, .jump .ifEqual 255, .halt]

/-- The program under a title, on plain lines, with a blank line behind its first instruction. -/
def loadsNowhereLayout : Source.Layout where
  ended :=
    (.blank .empty (some ⟨['8'], by decide⟩), .crlf) ::
      [0x82, 8, 3].map (fun b => (.plain b, .lf)) ++
      (.blank .empty none, .lf) ::
      [0x55, 255, 1].map (fun b => (.plain b, .lf))
  last := none

theorem loadsNowhere_is_decoded :
    Source.parse "#8\r\n10000010\n00001000\n00000011\n\n01010101\n11111111\n00000001\n" =
        .ok [0x82, 8, 3, 0x55, 255, 1] ∧
      let o := (Machine.new ⟨true, false, false⟩).load [0x82, 8, 3, 0x55, 255, 1] ()
      o.result = .ok () ∧
        Instruction.decodeFrom o.machine.state.memory 3 0 =
          .ok [.load 8 3, .jump .ifEqual 255, .halt] ∧
        Instruction.decode o.machine.state.memory 6 = .error (.illegalInstruction 0 6) := by
  have text : String.ofList loadsNowhereLayout.chars =
      "#8\r\n10000010\n00001000\n00000011\n\n01010101\n11111111\n00000001\n" := by
    decide +kernel
  obtain ⟨read, loaded⟩ :=
    source_decodes_to_program loadsNowhere (by decide) loadsNowhereLayout (by decide)
  obtain ⟨accepted, decoded, behind⟩ := loaded Unit (.new ⟨true, false, false⟩) ()
  rw [text] at read
  exact ⟨read, accepted, decoded, (behind 6 (by decide)).2⟩

end ByteMachine
