import Mathlib.Data.List.Nodup
import Mathlib.Data.Nat.Bitwise
import ByteMachine.Proofs.Announcement
import ByteMachine.Proofs.Dump

/-!
# Texts that tell the state

What is shown of a state can be read back. A snapshot is a line of 46 characters on which every byte
has its columns, so it is the line of no other snapshot (`Snapshot.read?_text`). In a crash report
every value is on a line behind its name, and no name comes twice (`State.namedValues_report`); so
two states have the same report exactly if their program counters, registers, flags and cycles are
the same. The stack pointer is shown twice, by its own name and as the register that it is.
-/
namespace ByteMachine

open Debugger (cellsText readCells?)

/-! ## Bytes and registers -/

theorem length_cellsText (bytes : List UInt8) : (cellsText bytes).length = 3 * bytes.length := by
  induction bytes with
  | nil => rfl
  | cons b bytes ih =>
    obtain ⟨high, low, digits, -⟩ := Debugger.exists_digits b.toNat_lt
    rw [cellsText, List.flatMap_cons, digits, List.length_append, ← cellsText, ih]
    simp only [List.length_cons, List.length_nil]
    omega

namespace Registers

/-- The registers with the given contents, if there is one for each of them. -/
def ofList? (bytes : List UInt8) : Option Registers :=
  if h : bytes.length = 8 then some ⟨⟨bytes.toArray, h⟩⟩ else none

theorem ofList?_toList (rs : Registers) : ofList? rs.toList = some rs := dif_pos rs.length_toList

theorem getElem?_toList (rs : Registers) (r : Register) : rs.toList[r.val]? = some (rs.read r) := by
  have within : r.val < rs.toList.length := by
    rw [length_toList]
    exact r.isLt
  rw [List.getElem?_eq_getElem within]
  simp [toList, read]

end Registers

/-- The place of the bit that stands for an outcome. -/
def Flags.place : Ordering → Nat
  | .eq => 0
  | .gt => 1
  | .lt => 2

theorem Flags.shows_eq_testBit (fl : Flags) (o : Ordering) :
    fl.shows o = fl.bits.toNat.testBit (place o) := by
  have bit_eq : (bit o).toNat = 2 ^ place o := by
    cases o <;> rfl
  rw [Bool.eq_iff_iff, shows, beq_iff_eq, ← UInt8.toNat_inj, UInt8.toNat_and, bit_eq,
    Nat.and_two_pow]
  have positive : 2 ^ place o ≠ 0 := by simp
  cases fl.bits.toNat.testBit (place o) <;> simp [positive.symm]

/-! ## Snapshots -/

namespace Snapshot

/-- The snapshot on a line, where everything stands in its columns. -/
def read? (line : String) : Option Snapshot :=
  match readCells? ((line.toList.drop 6).take 3), readCells? ((line.toList.drop 11).take 9),
      readCells? (line.toList.drop 22) with
  | some [pc], some [first, second, third], some bytes =>
    (Registers.ofList? bytes).map fun registers => ⟨pc, first, second, third, registers⟩
  | _, _, _ => none

theorem toList_text (t : Snapshot) :
    t.text.toList = "TRACE:".toList ++ (cellsText [t.pc] ++ (" |".toList ++
      (cellsText [t.first, t.second, t.third] ++
        (" |".toList ++ cellsText t.registers.toList)))) := by
  have told : t.text = "TRACE: " ++ hexByte t.pc ++ " | " ++ hexByte t.first ++ " " ++
      hexByte t.second ++ " " ++ hexByte t.third ++ " |" ++
        t.registers.toList.foldr (fun v rest => " " ++ hexByte v ++ rest) "" := rfl
  simp [told, toList_contents, cellsText, toList_hexByte]

theorem length_text (t : Snapshot) : t.text.length = 46 := by
  rw [← String.length_toList, toList_text]
  simp [length_cellsText, Register.count]

/-- The line of a snapshot is read as the snapshot. -/
theorem read?_text (t : Snapshot) : read? t.text = some t := by
  have label : "TRACE:".toList.length = 6 := by decide
  have bar : " |".toList.length = 2 := by decide
  have one : (cellsText [t.pc]).length = 3 := length_cellsText _
  have three : (cellsText [t.first, t.second, t.third]).length = 9 := length_cellsText _
  have behind : t.text.toList.drop 11 =
      cellsText [t.first, t.second, t.third] ++ (" |".toList ++ cellsText t.registers.toList) := by
    rw [toList_text, show 11 = 6 + 3 + 2 from rfl, ← List.drop_drop, ← List.drop_drop,
      List.drop_left' label, List.drop_left' one, List.drop_left' bar]
  have pc : (t.text.toList.drop 6).take 3 = cellsText [t.pc] := by
    rw [toList_text, List.drop_left' label, List.take_left' one]
  have bytes : (t.text.toList.drop 11).take 9 = cellsText [t.first, t.second, t.third] := by
    rw [behind, List.take_left' three]
  have registers : t.text.toList.drop 22 = cellsText t.registers.toList := by
    rw [show 22 = 11 + 9 + 2 from rfl, ← List.drop_drop, ← List.drop_drop, behind,
      List.drop_left' three, List.drop_left' bar]
  simp [read?, pc, bytes, registers, Debugger.readCells?_cellsText, Registers.ofList?_toList]

theorem text_injective {t t' : Snapshot} (h : t.text = t'.text) : t = t' := by
  have read := read?_text t
  rw [h, read?_text t'] at read
  exact (Option.some.inj read).symm

end Snapshot

/-! ## Named values -/

/-- What is on a line with a colon: the name in front of the colon and the value behind it, both
without the spaces before them. -/
def namedValue? (line : List Char) : Option (String × String) :=
  match line.dropWhile (· != ':') with
  | [] => none
  | _ :: value =>
    some (String.ofList ((line.takeWhile (· != ':')).dropWhile (· == ' ')),
      String.ofList (value.dropWhile (· == ' ')))

/-- The names and values on the lines of a text. -/
def namedValues (text : String) : List (String × String) :=
  (text.toList.splitOn '\n').filterMap namedValue?

/-- The value that a text has for a name. -/
def valueOf? (name text : String) : Option String := (namedValues text).lookup name

/-- What is written behind the colon goes to the value. -/
theorem namedValue?_append {label rest : List Char} {name value : String}
    (h : namedValue? label = some (name, value)) (hr : ' ' ∉ rest) :
    namedValue? (label ++ rest) = some (name, value ++ String.ofList rest) := by
  have trimmed (front : List Char) :
      (front ++ rest).dropWhile (· == ' ') = front.dropWhile (· == ' ') ++ rest := by
    have kept : rest.dropWhile (· == ' ') = rest := by
      cases rest with
      | nil => rfl
      | cons c rest =>
        rw [List.mem_cons, not_or] at hr
        exact List.dropWhile_cons_of_neg (by simpa using Ne.symm hr.1)
    rw [List.dropWhile_append, kept]
    split
    case isTrue empty => rw [List.isEmpty_iff.1 empty, List.nil_append]
    case isFalse => rfl
  rw [namedValue?] at h
  cases behind : label.dropWhile (· != ':') with
  | nil => simp [behind] at h
  | cons colon front =>
    have short : (label.takeWhile (· != ':')).length ≠ label.length := by
      have total := congrArg List.length
        (List.takeWhile_append_dropWhile (p := (· != ':')) (l := label))
      rw [behind, List.length_append, List.length_cons] at total
      omega
    rw [behind] at h
    obtain ⟨rfl, rfl⟩ := Prod.mk.inj (Option.some.inj h)
    rw [namedValue?, List.dropWhile_append, behind, List.takeWhile_append, if_neg short]
    simp [trimmed, String.ofList_append]

theorem namedValue?_line {label name front value : String}
    (h : namedValue? label.toList = some (name, front)) (solid : ' ' ∉ value.toList) :
    namedValue? (label ++ value).toList = some (name, front ++ value) := by
  have line := namedValue?_append h solid
  rwa [← String.toList_append, String.ofList_toList] at line

/-- If no name comes twice, a value is found by its name. -/
theorem lookup_eq_some_of_mem {values : List (String × String)} {name value : String}
    (distinct : (values.map Prod.fst).Nodup) (h : (name, value) ∈ values) :
    values.lookup name = some value := by
  obtain ⟨before, behind, rfl⟩ := List.append_of_mem h
  refine List.lookup_eq_some_iff.2 ⟨before, behind, rfl, ?_⟩
  intro p hp
  rw [List.map_append, List.map_cons, List.nodup_append] at distinct
  have other := distinct.2.2 p.1 (List.mem_map_of_mem hp) name (List.mem_cons_self ..)
  simpa using Ne.symm other

/-! ## Crash reports -/

namespace State

/-- The name of a register. -/
def registerName (r : Nat) : String := "R" ++ Numeral.decimal r

/-- The name of the flag for an outcome. -/
def flagName : Ordering → String
  | .eq => "Equal"
  | .gt => "Greater"
  | .lt => "Less"

/-- What a crash report says, by name. -/
def reported (s : State) : List (String × String) :=
  [("CPU Crash State", ""), ("Program Counter", "0x" ++ hexByte s.pc),
    ("Stack Pointer", "0x" ++ hexByte s.registers.sp),
    ("Cycles", Numeral.decimal s.cycles.toNat), ("Registers", "")] ++
  s.registers.toList.zipIdx.map (fun e => (registerName e.2, "0x" ++ hexByte e.1)) ++
  [("Flags Register", "0b" ++ Numeral.binary 3 s.flags.bits.toNat),
    (flagName .eq, flagText (s.flags.shows .eq)), (flagName .gt, flagText (s.flags.shows .gt)),
    (flagName .lt, flagText (s.flags.shows .lt))]

variable {s t : State}

theorem newline_notMem_flagText (flag : Bool) : '\n' ∉ (flagText flag).toList := by
  cases flag <;> decide

theorem newline_notMem_reportLines (s : State) : ∀ line ∈ s.reportLines, '\n' ∉ line.toList := by
  have decimal (n : Nat) : '\n' ∉ Numeral.digits 10 n :=
    Numeral.newline_notMem_digits (by decide) (by decide) n
  have binary (n : Nat) : '\n' ∉ Numeral.padded 2 3 n :=
    Numeral.newline_notMem_padded (by decide) (by decide) 3 n
  rw [reportLines, List.forall_mem_append, List.forall_mem_append]
  refine ⟨⟨?_, ?_⟩, ?_⟩
  · simp [newline_notMem_hexByte, decimal]
  · intro line hl
    obtain ⟨e, -, rfl⟩ := List.mem_map.1 hl
    simp [registerLine, newline_notMem_hexByte, decimal]
  · simp [newline_notMem_flagText, binary]

/-- The lines of a report can be read off its text. -/
theorem splitOn_report (s : State) :
    s.report.toList.splitOn '\n' = s.reportLines.map String.toList := by
  have text : s.report.toList = ['\n'].intercalate (s.reportLines.map String.toList) :=
    String.toList_intercalate
  have inline : ∀ line ∈ s.reportLines.map String.toList, '\n' ∉ line := by
    intro line hl
    obtain ⟨l, within, rfl⟩ := List.mem_map.1 hl
    exact s.newline_notMem_reportLines l within
  have nonempty : s.reportLines.map String.toList ≠ [] := List.cons_ne_nil _ _
  rw [text, List.splitOn_intercalate '\n' inline nonempty]

theorem filterMap_registerLines (rs : Registers) :
    (rs.toList.zipIdx.map registerLine).filterMap (namedValue? ∘ String.toList) =
      rs.toList.zipIdx.map fun e => (registerName e.2, "0x" ++ hexByte e.1) := by
  have label : ∀ r < 8, namedValue? ("    R" ++ Numeral.decimal r ++ ": 0x").toList =
      some (registerName r, "0x") := by decide
  rw [List.filterMap_map, ← List.filterMap_eq_map]
  refine List.filterMap_congr ?_
  intro e he
  have within := (List.mem_zipIdx he).2.1
  rw [rs.length_toList] at within
  have line : registerLine e = "    R" ++ Numeral.decimal e.2 ++ ": 0x" ++ hexByte e.1 := rfl
  rw [Function.comp_apply, Function.comp_apply, line,
    namedValue?_line (label e.2 within) (notMem_hexByte (by decide) e.1)]
  rfl

theorem namedValues_report (s : State) : namedValues s.report = s.reported := by
  have solid : ' ' ∉ (Numeral.decimal s.cycles.toNat).toList ∧
      ' ' ∉ (Numeral.binary 3 s.flags.bits.toNat).toList := by
    rw [Numeral.toList_decimal, Numeral.toList_binary]
    exact ⟨Numeral.notMem_digits (by decide) (by decide) (by decide) _,
      Numeral.notMem_padded (by decide) (by decide) (by decide) 3 _⟩
  have blank : namedValue? "".toList = none := by decide
  have crash : namedValue? "CPU Crash State:".toList = some ("CPU Crash State", "") := by decide
  have registers : namedValue? "Registers:".toList = some ("Registers", "") := by decide
  have pc : namedValue? ("    Program Counter: 0x" ++ hexByte s.pc).toList =
      some ("Program Counter", "0x" ++ hexByte s.pc) :=
    namedValue?_line (by decide) (notMem_hexByte (by decide) s.pc)
  have sp : namedValue? ("    Stack Pointer:   0x" ++ hexByte s.registers.sp).toList =
      some ("Stack Pointer", "0x" ++ hexByte s.registers.sp) :=
    namedValue?_line (by decide) (notMem_hexByte (by decide) s.registers.sp)
  have cycles : namedValue? ("    Cycles:          " ++ Numeral.decimal s.cycles.toNat).toList =
      some ("Cycles", "" ++ Numeral.decimal s.cycles.toNat) :=
    namedValue?_line (by decide) solid.1
  have bits : namedValue? ("Flags Register: 0b" ++ Numeral.binary 3 s.flags.bits.toNat).toList =
      some ("Flags Register", "0b" ++ Numeral.binary 3 s.flags.bits.toNat) :=
    namedValue?_line (by decide) solid.2
  have flag {label : String} {o : Ordering}
      (h : namedValue? label.toList = some (flagName o, "")) :
      namedValue? (label ++ flagText (s.flags.shows o)).toList =
        some (flagName o, "" ++ flagText (s.flags.shows o)) :=
    namedValue?_line h (by cases s.flags.shows o <;> decide)
  have equal := flag (show namedValue? "    Equal:   ".toList = some (flagName .eq, "") by decide)
  have greater := flag (show namedValue? "    Greater: ".toList = some (flagName .gt, "") by decide)
  have less := flag (show namedValue? "    Less:    ".toList = some (flagName .lt, "") by decide)
  rw [namedValues, splitOn_report, List.filterMap_map, reportLines, List.filterMap_append,
    List.filterMap_append, filterMap_registerLines, reported]
  simp only [List.filterMap_cons, List.filterMap_nil, Function.comp_apply, blank, crash,
    registers, pc, sp, cycles, bits, equal, greater, less, String.empty_append, Flags.equal,
    Flags.greater, Flags.less]

theorem nodup_names (s : State) : (s.reported.map Prod.fst).Nodup := by
  have registers :
      (s.registers.toList.zipIdx.map fun e => (registerName e.2, "0x" ++ hexByte e.1)).map Prod.fst =
        (List.range' 0 8).map registerName := by
    have numbers := List.zipIdx_map_snd 0 s.registers.toList
    rw [s.registers.length_toList] at numbers
    rw [List.map_map, ← Register.count, ← numbers, List.map_map]
    rfl
  rw [reported, List.map_append, List.map_append, registers]
  change (["CPU Crash State", "Program Counter", "Stack Pointer", "Cycles", "Registers"] ++
    (List.range' 0 8).map registerName ++
      ["Flags Register", flagName .eq, flagName .gt, flagName .lt]).Nodup
  decide

theorem valueOf?_report {name value : String} (h : (name, value) ∈ s.reported) :
    valueOf? name s.report = some value := by
  rw [valueOf?, namedValues_report]
  exact lookup_eq_some_of_mem s.nodup_names h

theorem valueOf?_pc (s : State) :
    valueOf? "Program Counter" s.report = some ("0x" ++ hexByte s.pc) :=
  valueOf?_report (by simp [reported])

theorem valueOf?_sp (s : State) :
    valueOf? "Stack Pointer" s.report = some ("0x" ++ hexByte s.registers.sp) :=
  valueOf?_report (by simp [reported])

theorem valueOf?_cycles (s : State) :
    valueOf? "Cycles" s.report = some (Numeral.decimal s.cycles.toNat) :=
  valueOf?_report (by simp [reported])

theorem valueOf?_register (r : Register) (s : State) :
    valueOf? (registerName r) s.report = some ("0x" ++ hexByte (s.registers.read r)) := by
  have numbered : (s.registers.read r, r.val) ∈ s.registers.toList.zipIdx :=
    List.mem_zipIdx_iff_getElem?.2 (s.registers.getElem?_toList r)
  have named : (registerName r, "0x" ++ hexByte (s.registers.read r)) ∈
      s.registers.toList.zipIdx.map fun e => (registerName e.2, "0x" ++ hexByte e.1) :=
    List.mem_map.2 ⟨_, numbered, rfl⟩
  exact valueOf?_report (List.mem_append_left _ (List.mem_append_right _ named))

theorem valueOf?_bits (s : State) :
    valueOf? "Flags Register" s.report = some ("0b" ++ Numeral.binary 3 s.flags.bits.toNat) :=
  valueOf?_report (by simp [reported])

theorem valueOf?_flag (o : Ordering) (s : State) :
    valueOf? (flagName o) s.report = some (flagText (s.flags.shows o)) := by
  refine valueOf?_report ?_
  cases o <;> simp [reported]

/-- The report tells everything of the state but memory and whether it has halted. -/
theorem report_eq_iff :
    s.report = t.report ↔
      s.pc = t.pc ∧ s.registers = t.registers ∧ s.flags = t.flags ∧ s.cycles = t.cycles := by
  constructor
  · intro same
    have agree {name : String} {value : State → String}
        (h : ∀ u : State, valueOf? name u.report = some (value u)) : value s = value t := by
      have here := h s
      rw [same, h t] at here
      exact (Option.some.inj here).symm
    have byte {a b : UInt8} (h : "0x" ++ hexByte a = "0x" ++ hexByte b) : a = b :=
      hexByte_injective ((String.append_right_inj "0x").1 h)
    have bits := congrArg String.toList ((String.append_right_inj "0b").1 (agree valueOf?_bits))
    have cycles := congrArg String.toList (agree valueOf?_cycles)
    rw [Numeral.toList_binary, Numeral.toList_binary] at bits
    rw [Numeral.toList_decimal, Numeral.toList_decimal] at cycles
    refine ⟨byte (agree valueOf?_pc), ?_, ?_, ?_⟩
    · exact Registers.ext_read fun r => byte (agree (valueOf?_register r))
    · exact congrArg Flags.mk
        (UInt8.toNat_inj.1 (Numeral.padded_injective (by decide) (by decide) bits))
    · exact UInt64.toNat_inj.1 (Numeral.digits_injective (by decide) (by decide) cycles)
  · obtain ⟨pc, registers, flags, halted, cycles, memory⟩ := s
    obtain ⟨pc', registers', flags', halted', cycles', memory'⟩ := t
    rintro ⟨rfl, rfl, rfl, rfl⟩
    rfl

end State

/-- What is shown of a state is unambiguous. A snapshot is a line of 46 characters, from which the
program counter, the three bytes that start there, with address 0 behind the last one, and all
registers can be read; so two snapshots have the same line exactly if all of these are the same.
Two states have the same crash report exactly if the program counter, all registers, the flags,
whatever bits are set in them, and the cycles are the same. In a report the stack pointer has the
value of the last register, and of every flag it is said whether its bit is set. -/
theorem texts_tell_state :
    (∀ (m : Memory) (pc : UInt8) (rs : Registers),
      (m.snapshot pc rs).text.length = 46 ∧
      Snapshot.read? (m.snapshot pc rs).text =
        some ⟨pc, m.read pc, m.read (pc + 1), m.read (pc + 2), rs⟩) ∧
    (∀ (m m' : Memory) (pc pc' : UInt8) (rs rs' : Registers),
      (m.snapshot pc rs).text = (m'.snapshot pc' rs').text ↔
        pc = pc' ∧ m.read pc = m'.read pc' ∧ m.read (pc + 1) = m'.read (pc' + 1) ∧
          m.read (pc + 2) = m'.read (pc' + 2) ∧ rs = rs') ∧
    (∀ s t : State, s.report = t.report ↔
      s.pc = t.pc ∧ s.registers = t.registers ∧ s.flags = t.flags ∧ s.cycles = t.cycles) ∧
    ∀ s : State,
      let shown (place : Nat) := if s.flags.bits.toNat.testBit place then "SET" else "UNSET"
      valueOf? "Stack Pointer" s.report = valueOf? "R7" s.report ∧
      valueOf? "R7" s.report = some ("0x" ++ hexByte (s.registers.read 7)) ∧
      valueOf? "Equal" s.report = some (shown 0) ∧
      valueOf? "Greater" s.report = some (shown 1) ∧
      valueOf? "Less" s.report = some (shown 2) := by
  refine ⟨?_, ?_, fun s t => State.report_eq_iff, ?_⟩
  · intro m pc rs
    exact ⟨Snapshot.length_text _, Snapshot.read?_text _⟩
  · intro m m' pc pc' rs rs'
    have same : (m.snapshot pc rs).text = (m'.snapshot pc' rs').text ↔
        m.snapshot pc rs = m'.snapshot pc' rs' :=
      ⟨Snapshot.text_injective, congrArg Snapshot.text⟩
    rw [same, Memory.snapshot, Memory.snapshot, Snapshot.mk.injEq]
  · intro s shown
    have last : valueOf? "R7" s.report = some ("0x" ++ hexByte (s.registers.read 7)) :=
      State.valueOf?_register 7 s
    have flag (o : Ordering) :
        valueOf? (State.flagName o) s.report = some (shown (Flags.place o)) := by
      rw [State.valueOf?_flag, Flags.shows_eq_testBit]
      rfl
    exact ⟨(State.valueOf?_sp s).trans last.symm, last, flag .eq, flag .gt, flag .lt⟩

/-- Behind the last address the bytes are those from address 0 on. -/
example : ((Memory.zero.writeFrom 0xFE [0x82, 0, 8]).snapshot 0xFE (.write .start 0 0xAB)).text =
    "TRACE: FE | 82 00 08 | AB 00 00 00 00 00 00 F4" := by
  decide +kernel

end ByteMachine
