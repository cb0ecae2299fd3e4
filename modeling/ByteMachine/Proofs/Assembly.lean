import ByteMachine.Proofs.Announcement
import ByteMachine.Proofs.Decoding
import ByteMachine.Proofs.Lines

/-!
# Assembly

A listing has the instructions of a program on lines of their own. It can be assembled: on each line
the mnemonic ends at the first space and the operands at commas, the opcode tells how its operands
are written, and the byte of the opcode and those of its operands are the encoding. Assembling a
listing gives the image of the program that it was made of, so that no two programs have the same
listing, and if they were decoded one after the other, it gives the cells that they were decoded
from (`Instruction.listing_determines_program`).
-/
namespace ByteMachine

/-! ## Reading operands -/

/-- How an operand is written. -/
inductive OperandKind where
  /-- An `R` and the operand in decimal. -/
  | register
  /-- The operand in decimal. -/
  | number
  deriving DecidableEq, Repr

namespace OperandKind

/-- The operand as it is written. -/
def written : OperandKind → UInt8 → List Char
  | register, b => 'R' :: Numeral.digits 10 b.toNat
  | number, b => Numeral.digits 10 b.toNat

/-- The byte that a decimal numeral stands for. -/
def byte? (numeral : List Char) : Option UInt8 := do
  let n ← Numeral.value? 10 numeral
  if n < 256 then some (UInt8.ofNat n) else none

/-- The operand that has been written. -/
def read? : OperandKind → List Char → Option UInt8
  | register, 'R' :: numeral => byte? numeral
  | register, _ => none
  | number, numeral => byte? numeral

theorem byte?_digits (b : UInt8) : byte? (Numeral.digits 10 b.toNat) = some b := by
  have read : Numeral.value? 10 (Numeral.digits 10 b.toNat) = some b.toNat :=
    Numeral.value?_digits (by decide) (by decide) b.toNat
  simp [byte?, read, b.toNat_lt]

@[simp] theorem read?_written (kind : OperandKind) (b : UInt8) :
    kind.read? (kind.written b) = some b := by
  cases kind <;> exact byte?_digits b

/-- Nothing but digits and the `R` is in an operand. -/
theorem notMem_written {c : Char} (hc : ∀ d < 16, c.toLower ≠ d.digitChar) (hr : c ≠ 'R')
    (kind : OperandKind) (b : UInt8) : c ∉ kind.written b := by
  have digits : c ∉ Numeral.digits 10 b.toNat :=
    Numeral.notMem_digits (by decide) (by decide) hc b.toNat
  cases kind <;> simp [written, digits, hr]

/-- The operands that have been written, if they are as many as they should be. -/
def readAll? : List OperandKind → List (List Char) → Option (List UInt8)
  | [], [] => some []
  | kind :: kinds, text :: texts => do
    let b ← kind.read? text
    let bytes ← readAll? kinds texts
    return b :: bytes
  | _, _ => none

theorem readAll?_written {kinds : List OperandKind} {bytes : List UInt8}
    (h : kinds.length = bytes.length) :
    readAll? kinds (kinds.zipWith written bytes) = some bytes := by
  induction kinds generalizing bytes with
  | nil =>
    obtain rfl := List.length_eq_zero_iff.1 h.symm
    rfl
  | cons kind kinds ih =>
    cases bytes with
    | nil => simp at h
    | cons b bytes => simp [readAll?, ih (Nat.succ.inj h)]

end OperandKind

/-- How the operands of the opcode are written. -/
def Opcode.operandKinds : Opcode → List OperandKind
  | hlt => []
  | ldi => [.register, .number]
  | add | mul | cmp => [.register, .register]
  | prn | push | pop | jmp | jeq | jne => [.register]

namespace Instruction

/-! ## Lines -/

/-- The operands of the instruction as they are written. -/
def operandTexts (i : Instruction) : List (List Char) :=
  i.opcode.operandKinds.zipWith OperandKind.written i.operands

/-- What follows the mnemonic on a line: nothing, or a space and operands with commas between. -/
def behindMnemonic : List (List Char) → List Char
  | [] => []
  | texts => ' ' :: [','].intercalate texts

/-- The bytes of the instruction on a line. -/
def assembleLine? (line : List Char) : Option (List UInt8) :=
  match line.splitOn ' ' with
  | [] => none
  | name :: rest => do
    let op ← Opcode.ofMnemonic? (String.ofList name)
    let operands ← OperandKind.readAll? op.operandKinds (rest.flatMap (·.splitOn ','))
    return op.byte :: operands

theorem toList_text (i : Instruction) :
    i.text.toList = i.opcode.mnemonic.toList ++ behindMnemonic i.operandTexts := by
  have told : i.operandText.toList = behindMnemonic i.operandTexts := by
    cases i with
    | alu op => cases op <;> simp [operandText, registerText, operandTexts, behindMnemonic, opcode,
        AluOp.opcode, operands, Opcode.operandKinds, OperandKind.written]
    | jump c => cases c <;> simp [operandText, registerText, operandTexts, behindMnemonic, opcode,
        Condition.opcode, operands, Opcode.operandKinds, OperandKind.written]
    | _ => simp [operandText, registerText, operandTexts, behindMnemonic, opcode, operands,
        Opcode.operandKinds, OperandKind.written]
  rw [text, String.toList_append, told]

theorem length_operandKinds (i : Instruction) :
    i.opcode.operandKinds.length = i.operands.length := by
  cases i with
  | alu op => cases op <;> rfl
  | jump condition => cases condition <;> rfl
  | _ => rfl

theorem notMem_operandTexts {c : Char} (hc : ∀ d < 16, c.toLower ≠ d.digitChar) (hr : c ≠ 'R')
    (i : Instruction) : ∀ written ∈ i.operandTexts, c ∉ written := by
  intro written h
  rw [operandTexts, ← List.map_uncurry_zip_eq_zipWith] at h
  obtain ⟨⟨kind, b⟩, -, rfl⟩ := List.mem_map.1 h
  exact kind.notMem_written hc hr b

/-- Between texts in which there is no space commas bring none. -/
theorem space_notMem_intercalate {texts : List (List Char)} (h : ∀ t ∈ texts, ' ' ∉ t) :
    ' ' ∉ [','].intercalate texts := by
  induction texts with
  | nil => simp
  | cons t texts ih =>
    rw [List.forall_mem_cons] at h
    cases texts with
    | nil => simpa using h.1
    | cons t' texts =>
      rw [List.intercalate_cons_cons]
      simp [h.1, ih h.2]

/-- A line can be cut into the mnemonic and the operands. -/
theorem splitOn_behindMnemonic {name : List Char} {texts : List (List Char)} (hn : ' ' ∉ name)
    (spaces : ∀ t ∈ texts, ' ' ∉ t) (commas : ∀ t ∈ texts, ',' ∉ t) :
    ∃ rest, (name ++ behindMnemonic texts).splitOn ' ' = name :: rest ∧
      rest.flatMap (·.splitOn ',') = texts := by
  cases texts with
  | nil => exact ⟨[], by rw [behindMnemonic, List.append_nil, List.splitOn_eq_singleton hn], rfl⟩
  | cons t texts =>
    refine ⟨[[','].intercalate (t :: texts)], ?_, ?_⟩
    · rw [behindMnemonic, List.splitOn_append_cons_self_of_not_mem hn,
        List.splitOn_eq_singleton (space_notMem_intercalate spaces)]
      exact List.cons_ne_nil t texts
    · rw [List.flatMap_singleton]
      exact List.splitOn_intercalate ',' commas (List.cons_ne_nil t texts)

/-- The line of an instruction is assembled to its encoding. -/
theorem assembleLine?_text (i : Instruction) : assembleLine? i.text.toList = some i.bytes := by
  have hn : ' ' ∉ i.opcode.mnemonic.toList := by
    cases i.opcode <;> decide
  obtain ⟨rest, cut, texts⟩ := splitOn_behindMnemonic hn
    (i.notMem_operandTexts (by decide) (by decide)) (i.notMem_operandTexts (by decide) (by decide))
  have read := OperandKind.readAll?_written (length_operandKinds i)
  rw [assembleLine?, toList_text, cut]
  simp [texts, operandTexts, read, bytes]

/-- The opcode and its operands tell the instruction. -/
theorem bytes_injective {i j : Instruction} (h : i.bytes = j.bytes) : i = j := by
  have decoded (k : Instruction) : decode (Memory.zero.writeFrom 0 k.bytes) 0 = .ok k := by
    refine decode_of_stores (Memory.stores_writeFrom ?_)
    rw [length_bytes]
    exact Nat.le_trans (Opcode.length_le _) (by decide)
  have again := decoded i
  rw [h, decoded j] at again
  exact (Except.ok.inj again).symm

theorem text_injective {i j : Instruction} (h : i.text = j.text) : i = j := by
  have assembled := i.assembleLine?_text
  rw [h, j.assembleLine?_text] at assembled
  exact bytes_injective (Option.some.inj assembled).symm

/-! ## Listings -/

/-- The instructions of a program, each on a line, where a line end may stand behind the last line
or only between the lines. -/
def listing (ended : Bool) (program : List Instruction) : String :=
  let ls := program.map (·.text.toList)
  String.ofList (if ended then joinLines ls else ['\n'].intercalate ls)

/-- The lines of a text, where behind the last line end there need not be one. -/
def listedLines (text : List Char) : List (List Char) :=
  let ls := text.splitOn '\n'
  if ls.getLast? = some [] then ls.dropLast else ls

/-- The bytes of the instructions in a listing. -/
def assemble? (text : String) : Option (List UInt8) :=
  ((listedLines text.toList).mapM assembleLine?).map List.flatten

theorem text_ne_nil (i : Instruction) : i.text.toList ≠ [] := by
  have named : i.opcode.mnemonic.toList ≠ [] := by
    cases i.opcode <;> decide
  rw [toList_text]
  exact List.append_ne_nil_of_left_ne_nil named _

/-- The lines of a listing, with a line end behind the last of them or without, are the texts. -/
theorem listedLines_listing (ended : Bool) (program : List Instruction) :
    listedLines (listing ended program).toList = program.map (·.text.toList) := by
  have inline : ∀ l ∈ program.map (·.text.toList), '\n' ∉ l :=
    List.forall_mem_map.2 fun i _ => i.newline_notMem_text
  cases ended with
  | true =>
    have cut := splitOn_joinLines_append inline (List.not_mem_nil (a := '\n'))
    rw [List.append_nil] at cut
    simp [listing, listedLines, cut]
  | false =>
    cases program with
    | nil => rfl
    | cons i program =>
      have cut := List.splitOn_intercalate '\n' inline (by simp)
      have last : ((i :: program).map (·.text.toList)).getLast? ≠ some [] := by
        intro empty
        obtain ⟨j, -, none⟩ := List.mem_map.1 (List.mem_of_getLast? empty)
        exact j.text_ne_nil none
      rw [listing, listedLines, if_neg Bool.false_ne_true, String.toList_ofList, cut]
      exact if_neg last

theorem listing_injective {ended : Bool} {p q : List Instruction}
    (h : listing ended p = listing ended q) : p = q := by
  have lines := listedLines_listing ended p
  rw [h, listedLines_listing] at lines
  exact List.map_injective_iff.2 (fun _ _ same => text_injective (String.toList_injective same))
    lines.symm

/-- A listing is assembled to the image of the program. -/
theorem assemble?_listing (ended : Bool) (program : List Instruction) :
    assemble? (listing ended program) = some (program.flatMap bytes) := by
  have read : (program.map (·.text.toList)).mapM assembleLine? = some (program.map bytes) := by
    induction program with
    | nil => rfl
    | cons i program ih => simp [assembleLine?_text, ih]
  rw [assemble?, listedLines_listing, read, Option.map_some, List.flatMap_def]

/-! ## Cells -/

/-- What is decoded one behind the other is in memory as it is encoded. -/
theorem stores_of_decodeFrom {m : Memory} {n : Nat} {a : UInt8} {program : List Instruction}
    (h : decodeFrom m n a = .ok program) :
    program.length = n ∧ m.Stores a (program.flatMap bytes) := by
  induction n generalizing a program with
  | zero =>
    obtain rfl := Except.ok.inj h
    exact ⟨rfl, trivial⟩
  | succ n ih =>
    rcases hd : decode m a with fault | i
    · simp [decodeFrom, hd, bind, Except.bind] at h
    rcases hr : decodeFrom m n (a + UInt8.ofNat i.length) with fault | rest
    · simp [decodeFrom, hd, hr, bind, Except.bind] at h
    obtain rfl : i :: rest = program := by
      simpa [decodeFrom, hd, hr, bind, Except.bind, pure, Except.pure] using h
    obtain ⟨count, later⟩ := ih hr
    refine ⟨congrArg Nat.succ count, Memory.stores_append.2 ⟨stores_of_decode hd, ?_⟩⟩
    rwa [length_bytes]

end Instruction

/-- Bytes in memory are the contents of so many cells from the address on. -/
theorem Memory.Stores.eq_cells {m : Memory} {a : UInt8} {bytes : List UInt8}
    (h : m.Stores a bytes) :
    bytes = (List.range bytes.length).map fun i => m.read (a + UInt8.ofNat i) := by
  induction bytes generalizing a with
  | nil => rfl
  | cons b bytes ih =>
    obtain ⟨first, later⟩ := h
    have behind := ih later
    simp only [add_one_add_ofNat] at behind
    have here : m.read (a + UInt8.ofNat 0) = b := (congrArg m.read (UInt8.add_zero a)).trans first
    rw [List.length_cons, List.range_succ_eq_map, List.map_cons, List.map_map, here]
    exact congrArg (b :: ·) behind

namespace Instruction

/-- A listing tells the program. Programs with the same listing are the same, operands that an
opcode does not take being in none of them, and so they have the same image. A listing can be
assembled, which gives the image of its program. If the program was decoded in some memory, from
some address on and each instruction behind the one before, the image is as many cells as the
instructions are long, from this address on; behind the last address comes address 0, and a long
program may come by a cell more than once. -/
theorem listing_determines_program :
    (∀ ended p q, listing ended p = listing ended q →
      p = q ∧ p.flatMap bytes = q.flatMap bytes) ∧
    (∀ ended program, assemble? (listing ended program) = some (program.flatMap bytes)) ∧
    ∀ m n a program, decodeFrom m n a = .ok program →
      program.length = n ∧ ∀ ended, assemble? (listing ended program) =
        some ((List.range (program.map length).sum).map fun i => m.read (a + UInt8.ofNat i)) := by
  refine ⟨?_, assemble?_listing, ?_⟩
  · intro ended p q same
    obtain rfl := listing_injective same
    exact ⟨rfl, rfl⟩
  · intro m n a program decoded
    obtain ⟨count, stored⟩ := stores_of_decodeFrom decoded
    refine ⟨count, fun ended => ?_⟩
    have long : (program.flatMap bytes).length = (program.map length).sum := by
      simp [List.length_flatMap]
    rw [assemble?_listing, ← long, ← stored.eq_cells]

/-- The operands of the first two are no registers of the machine. -/
example : listing true [.load 8 3, .jump .ifEqual 255, .halt] = "LDI R8,3\nJEQ R255\nHLT\n" ∧
    assemble? "LDI R8,3\nJEQ R255\nHLT\n" = some [0x82, 8, 3, 0x55, 255, 1] := by
  decide +kernel

end Instruction

end ByteMachine
