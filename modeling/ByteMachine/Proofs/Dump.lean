import ByteMachine.Proofs.Numbers
import ByteMachine.Proofs.Truncation

/-!
# Dumps

A dump shows the cells that are asked for and no others. Its rows can be read: what `readRow?` finds
in them is the cells in order, up to the last one of memory at most, eight to a row as long as there
are eight, and in front of each row the address of its first cell (`RowsOf`). Of arguments that
are not accepted the first one is complained of, and nothing is shown then. To show memory does not
change it.
-/
namespace ByteMachine

theorem Machine.log_say {σ : Type} [Sink σ] (m : Machine) (text : String) (k : σ) :
    (m.say text k).log = [] := by
  rcases h : Sink.write k text with ⟨reason | ⟨⟩, k'⟩ <;> simp [say, h]

namespace Debugger

/-! ## Reading rows -/

/-- The bytes behind the colon of a row, each in two digits behind a space. -/
def readCells? : List Char → Option (List UInt8)
  | [] => some []
  | ' ' :: high :: low :: rest => do
    let value ← Numeral.value? 16 [high, low]
    let bytes ← readCells? rest
    return UInt8.ofNat value :: bytes
  | _ => none

/-- The address of a row, in two digits, and behind a colon its bytes. -/
def readRow? : List Char → Option (Nat × List UInt8)
  | high :: low :: ':' :: cells => do
    let address ← Numeral.value? 16 [high, low]
    let bytes ← readCells? cells
    return (address, bytes)
  | _ => none

theorem exists_digits {n : Nat} (h : n < 256) :
    ∃ high low, Numeral.padded 16 2 n = [high, low] ∧ Numeral.value? 16 [high, low] = some n := by
  have two : (Numeral.padded 16 2 n).length = 2 :=
    Numeral.length_padded_of_lt (by decide) (by decide) h
  obtain ⟨high, low, digits⟩ := List.length_eq_two.1 two
  exact ⟨high, low, digits, digits ▸ Numeral.value?_padded (by decide) (by decide) 2 n⟩

/-- The bytes of a row as they stand behind its colon. -/
def cellsText (bytes : List UInt8) : List Char :=
  bytes.flatMap fun b => ' ' :: Numeral.padded 16 2 b.toNat

theorem readCells?_cellsText (bytes : List UInt8) : readCells? (cellsText bytes) = some bytes := by
  induction bytes with
  | nil => rfl
  | cons b bytes ih =>
    obtain ⟨high, low, digits, value⟩ := exists_digits b.toNat_lt
    have cells : cellsText (b :: bytes) = ' ' :: high :: low :: cellsText bytes := by
      rw [cellsText, List.flatMap_cons, digits]
      rfl
    rw [cells, readCells?, value, ih]
    simp

/-- One more separator in front makes every part one with a separator in front of it. -/
theorem append_intercalate {α : Type} (separator : List α) {parts : List (List α)}
    (h : parts ≠ []) :
    separator ++ separator.intercalate parts = parts.flatMap (separator ++ ·) := by
  induction parts with
  | nil => contradiction
  | cons part parts ih =>
    cases parts with
    | nil => simp
    | cons next parts =>
      rw [List.intercalate_cons_cons, List.append_assoc, ih (List.cons_ne_nil next parts),
        List.flatMap_cons (x := part), List.append_assoc]

theorem toList_rowText {row : Nat × List UInt8} (h : row.2 ≠ []) :
    (rowText row).toList = Numeral.padded 16 2 row.1 ++ ':' :: cellsText row.2 := by
  obtain ⟨address, bytes⟩ := row
  have cells : (bytes.map fun b => Numeral.padded 16 2 b.toNat) ≠ [] := by simpa using h
  have spaced := append_intercalate [' '] cells
  rw [List.flatMap_map] at spaced
  simpa [rowText, hexByte, cellsText, Function.comp_def] using spaced

theorem readRow?_rowText {row : Nat × List UInt8} (h : row.2 ≠ []) (label : row.1 < 256) :
    readRow? (rowText row).toList = some row := by
  obtain ⟨high, low, digits, value⟩ := exists_digits label
  have begins : (rowText row).toList = high :: low :: ':' :: cellsText row.2 := by
    rw [toList_rowText h, digits]
    rfl
  rw [begins, readRow?, value, readCells?_cellsText]
  rfl

theorem newline_notMem_rowText {row : Nat × List UInt8} (h : row.2 ≠ []) :
    '\n' ∉ (rowText row).toList := by
  have digits (n : Nat) : '\n' ∉ Numeral.padded 16 2 n :=
    Numeral.newline_notMem_padded (by decide) (by decide) 2 n
  simp [toList_rowText h, cellsText, digits]

/-! ## Rows -/

/-- The rows are those of so many cells from an address on. In order they have the bytes of the
cells, eight to a row as long as there are eight, and each is labelled with the address of its first
cell, which is that of a cell of memory. -/
structure RowsOf (rows : List (Nat × List UInt8)) (memory : Memory) (start count : Nat) : Prop where
  bytes : rows.flatMap (·.2) =
    (List.range count).map fun i => memory.read (UInt8.ofNat (start + i))
  label : ∀ j row, rows[j]? = some row → row.1 = start + 8 * j ∧ row.1 ≤ 0xFF
  full : ∀ row ∈ rows.dropLast, row.2.length = 8
  length : ∀ row ∈ rows, 1 ≤ row.2.length ∧ row.2.length ≤ 8

theorem dumpRows_nil (address : Nat) : dumpRows address [] = [] := by
  rw [dumpRows]
  rfl

theorem dumpRows_of_ne_nil (address : Nat) {bytes : List UInt8} (h : bytes ≠ []) :
    dumpRows address bytes = (address, bytes.take 8) :: dumpRows (address + 8) (bytes.drop 8) := by
  rw [dumpRows, if_neg (by simpa using h)]
  rfl

theorem flatMap_dumpRows (address : Nat) (bytes : List UInt8) :
    (dumpRows address bytes).flatMap (·.2) = bytes := by
  fun_induction dumpRows address bytes with
  | case1 address bytes empty => exact (List.isEmpty_iff.1 empty).symm
  | case2 address bytes more ih => rw [List.flatMap_cons, ih, List.take_append_drop]

/-- There is a row for every eight bytes that have begun. -/
theorem getElem?_dumpRows (address : Nat) (bytes : List UInt8) (j : Nat) :
    (dumpRows address bytes)[j]? =
      if 8 * j < bytes.length then some (address + 8 * j, (bytes.drop (8 * j)).take 8)
      else none := by
  induction j generalizing address bytes with
  | zero =>
    by_cases empty : bytes = []
    · simp [empty, dumpRows_nil]
    · simp [dumpRows_of_ne_nil address empty, List.length_pos_iff.2 empty]
  | succ j ih =>
    by_cases empty : bytes = []
    · simp [empty, dumpRows_nil]
    · have next : 8 + 8 * j = 8 * (j + 1) := by omega
      have begun : 8 * j < bytes.length - 8 ↔ 8 * (j + 1) < bytes.length := by omega
      rw [dumpRows_of_ne_nil address empty, List.getElem?_cons_succ, ih, List.length_drop,
        List.drop_drop, Nat.add_assoc, next]
      simp only [begun]

theorem rowsOf_slice (memory : Memory) (a : UInt8) (length : Nat) :
    RowsOf (dumpRows a.toNat (memory.slice a length)) memory a.toNat
      (min length (256 - a.toNat)) := by
  have count : (memory.slice a length).length = min length (256 - a.toNat) :=
    memory.length_slice a length
  have cells := memory.slice_eq a length
  generalize memory.slice a length = bytes at count cells ⊢
  -- What is known of a row is known from its place among the rows.
  have row {j : Nat} {row : Nat × List UInt8} (h : (dumpRows a.toNat bytes)[j]? = some row) :
      8 * j < bytes.length ∧ row = (a.toNat + 8 * j, (bytes.drop (8 * j)).take 8) := by
    rw [getElem?_dumpRows] at h
    split at h
    case isTrue begun => exact ⟨begun, (Option.some.inj h).symm⟩
    case isFalse => cases h
  refine ⟨?_, ?_, ?_, ?_⟩
  · rw [flatMap_dumpRows]
    exact cells
  · intro j r h
    obtain ⟨begun, rfl⟩ := row h
    exact ⟨rfl, by omega⟩
  · intro r hr
    obtain ⟨j, hj⟩ := List.mem_iff_getElem?.1 hr
    rw [List.getElem?_dropLast] at hj
    split at hj
    case isTrue inside =>
      have more : j + 1 < (dumpRows a.toNat bytes).length := by omega
      obtain ⟨begun, rfl⟩ := row hj
      obtain ⟨next, -⟩ := row (List.getElem?_eq_getElem more)
      rw [List.length_take, List.length_drop]
      omega
    case isFalse => cases hj
  · intro r hr
    obtain ⟨j, hj⟩ := List.mem_iff_getElem?.1 hr
    obtain ⟨begun, rfl⟩ := row hj
    rw [List.length_take, List.length_drop]
    omega

/-! ## Arguments -/

/-- The number that an optional argument asks for; it has to fit a word of 64 bits. -/
inductive Denotes (default : Nat) : Option String → Nat → Prop
  | absent : Denotes default none default
  | given {text : String} {n : Nat} (fits : n < 2 ^ 64) (standsFor : StandsFor text n) :
      Denotes default (some text) n

/-- The argument stands for no number that fits a word of 64 bits. -/
def Rejected (text : String) : Prop := ¬∃ n < 2 ^ 64, StandsFor text n

variable {default n : Nat} {argument : Option String} {text : String} {c : Complaint}
  {arguments : List String}

theorem numberOr_eq_ok_iff : numberOr default argument = .ok n ↔ Denotes default argument n := by
  cases argument with
  | none =>
    rw [numberOr, Except.ok.injEq]
    constructor
    · rintro rfl
      exact .absent
    · rintro ⟨⟩
      rfl
  | some text =>
    rw [numberOr, readNumber_eq_ok_iff]
    constructor
    · rintro ⟨fits, standsFor⟩
      exact .given fits standsFor
    · rintro ⟨⟩
      exact ⟨‹_›, ‹_›⟩

theorem numberOr_eq_error_iff :
    numberOr default argument = .error c ↔
      ∃ text, argument = some text ∧ Rejected text ∧ c = .invalidNumber text := by
  cases argument with
  | none => simp [numberOr]
  | some text =>
    rw [numberOr, readNumber_eq_error_iff]
    simp [Rejected, numberBound, and_comm]

theorem rejected_of_readNotation?_eq_none
    (h : readNotation? (text.toList.map Char.toLower) = none) : Rejected text := by
  rintro ⟨n, -, standsFor⟩
  rw [standsFor_iff, h] at standsFor
  cases standsFor

/-- What the arguments of a dump ask for: the address of a first cell and a number of cells, or what
is wrong with the first argument that is not accepted. -/
inductive Selects (s : State) (arguments : List String) : Except Complaint (UInt8 × Nat) → Prop
  | cells {start length : Nat} (first : Denotes s.pc.toNat arguments[0]? start)
      (second : Denotes 16 arguments[1]? length) (inside : start < 256) :
      Selects s arguments (.ok (UInt8.ofNat start, length))
  | start {text : String} (first : arguments[0]? = some text) (rejected : Rejected text) :
      Selects s arguments (.error (.invalidNumber text))
  | length {start : Nat} {text : String} (first : Denotes s.pc.toNat arguments[0]? start)
      (second : arguments[1]? = some text) (rejected : Rejected text) :
      Selects s arguments (.error (.invalidNumber text))
  | outside {start length : Nat} (first : Denotes s.pc.toNat arguments[0]? start)
      (second : Denotes 16 arguments[1]? length) (outside : 256 ≤ start) :
      Selects s arguments (.error (.outsideMemory start))

theorem Selects.dumpRange_eq {s : State} {r : Except Complaint (UInt8 × Nat)}
    (h : Selects s arguments r) : dumpRange s arguments = r := by
  cases h with
  | cells first second inside =>
    rw [dumpRange, numberOr_eq_ok_iff.2 first, defaultDumpLength, numberOr_eq_ok_iff.2 second]
    exact if_pos inside
  | start first rejected =>
    rw [dumpRange, numberOr_eq_error_iff.2 ⟨_, first, rejected, rfl⟩]
    rfl
  | length first second rejected =>
    rw [dumpRange, numberOr_eq_ok_iff.2 first, numberOr_eq_error_iff.2 ⟨_, second, rejected, rfl⟩]
    rfl
  | outside first second outside =>
    rw [dumpRange, numberOr_eq_ok_iff.2 first, defaultDumpLength, numberOr_eq_ok_iff.2 second]
    exact if_neg (Nat.not_lt.2 outside)

theorem exists_selects (s : State) (arguments : List String) : ∃ r, Selects s arguments r := by
  rcases first : numberOr s.pc.toNat arguments[0]? with c | start
  · obtain ⟨text, given, rejected, -⟩ := numberOr_eq_error_iff.1 first
    exact ⟨_, .start given rejected⟩
  rcases second : numberOr 16 arguments[1]? with c | length
  · obtain ⟨text, given, rejected, -⟩ := numberOr_eq_error_iff.1 second
    exact ⟨_, .length (numberOr_eq_ok_iff.1 first) given rejected⟩
  rw [numberOr_eq_ok_iff] at first second
  by_cases inside : start < 256
  · exact ⟨_, .cells first second inside⟩
  · exact ⟨_, .outside first second (Nat.not_lt.1 inside)⟩

/-! ## Shown rows -/

variable {σ : Type} [Sink σ]

theorem dump_of_cells {m : Machine} {a : UInt8} {length : Nat}
    (h : Selects m.state arguments (.ok (a, length))) (k : σ) :
    dump arguments m k =
      sayAll ((dumpRows a.toNat (m.state.memory.slice a length)).map rowLine) m k := by
  rw [dump, h.dumpRange_eq]

theorem dump_of_complaint {m : Machine} (h : Selects m.state arguments (.error c)) (k : σ) :
    dump arguments m k = complain c m k := by
  rw [dump, h.dumpRange_eq]

/-- To say something changes nothing but the sink. -/
theorem sayAll_keeps (texts : List String) (m : Machine) (k : σ) :
    (sayAll texts m k).machine = m ∧ (sayAll texts m k).log = [] := by
  induction texts generalizing k with
  | nil => exact ⟨rfl, rfl⟩
  | cons text texts ih =>
    rw [sayAll]
    rcases said : (m.say text k).result with fault | ⟨⟩
    · rw [Outcome.andThen_of_error said]
      exact ⟨m.machine_say text k, m.log_say text k⟩
    · rw [Outcome.andThen_of_ok said, Outcome.machine_logAfter, Outcome.log_logAfter, m.log_say,
        m.machine_say, List.nil_append]
      exact ih _

theorem dump_keeps (arguments : List String) (m : Machine) (k : σ) :
    (dump arguments m k).machine = m ∧ (dump arguments m k).log = [] := by
  obtain ⟨c | ⟨a, length⟩, selects⟩ := exists_selects m.state arguments
  · rw [dump_of_complaint selects]
    exact ⟨m.machine_say _ k, m.log_say _ k⟩
  · rw [dump_of_cells selects]
    exact sayAll_keeps _ m k

theorem sayAll_of_unlimited {k : LineSink} (room : k.room = none) (texts : List String)
    (m : Machine) :
    sayAll texts m k = ⟨.ok (), m, k.taking (String.join texts) none, []⟩ := by
  induction texts generalizing k with
  | nil =>
    rw [String.join_nil, ← room, k.taking_empty]
    rfl
  | cons text texts ih =>
    have said : m.say text k = ⟨.ok (), m, k.taking text none, []⟩ := by
      simp only [Machine.say, Sink.write, LineSink.write, room, LineSink.taking]
    rw [sayAll, said, Outcome.andThen_of_ok rfl, ih rfl, LineSink.taking_taking, String.join_cons]
    rfl

theorem hasLines_rows {rows : List (Nat × List UInt8)} (h : ∀ row ∈ rows, row.2 ≠ []) :
    HasLines (String.join (rows.map rowLine)) (rows.map fun row => (rowText row).toList) := by
  induction rows with
  | nil => exact hasLines_empty
  | cons row rows ih =>
    rw [List.forall_mem_cons] at h
    have line := hasLines_line (newline_notMem_rowText h.1)
    rw [String.ofList_toList] at line
    rw [List.map_cons, String.join_cons]
    exact line.append (ih h.2)

theorem RowsOf.ne_nil {rows : List (Nat × List UInt8)} {memory : Memory} {start count : Nat}
    (h : RowsOf rows memory start count) : ∀ row ∈ rows, row.2 ≠ [] := by
  intro row hr
  exact List.length_pos_iff.1 (h.length row hr).1

/-- The rows are read from the lines that they are written on. -/
theorem RowsOf.map_readRow? {rows : List (Nat × List UInt8)} {memory : Memory} {start count : Nat}
    (h : RowsOf rows memory start count) :
    (rows.map fun row => (rowText row).toList).map readRow? = rows.map some := by
  rw [List.map_map]
  refine List.map_congr_left ?_
  intro row hr
  obtain ⟨j, hj⟩ := List.mem_iff_getElem?.1 hr
  have ⟨_, label⟩ := h.label j row hj
  rw [Function.comp_apply, readRow?_rowText (h.ne_nil row hr) (by omega)]

theorem complaintLine_invalidNumber (text : String) :
    complaintLine (.invalidNumber text) = "ls8-rs: invalid number: " ++ text ++ "\n" := by
  have told : (Complaint.invalidNumber text).message = "invalid number: " ++ text := rfl
  have front : "ls8-rs: invalid number: " = "ls8-rs: " ++ "invalid number: " := rfl
  rw [complaintLine, told, front, ← String.append_assoc]

theorem complaintLine_outsideMemory (address : Nat) :
    complaintLine (.outsideMemory address) =
      "ls8-rs: address 0x" ++ Numeral.hex 1 address ++ " is outside memory\n" := by
  have told : (Complaint.outsideMemory address).message =
      "address 0x" ++ Numeral.hex 1 address ++ " is outside memory" := rfl
  have front : "ls8-rs: address 0x" = "ls8-rs: " ++ "address 0x" := rfl
  have back : " is outside memory\n" = " is outside memory" ++ "\n" := rfl
  rw [complaintLine, told, front, back]
  simp only [String.append_assoc]

/-- A dump shows the cells that are asked for. If the arguments are accepted and the first one, or
without any the program counter, is an address of memory, then the lines that are written are rows
that can be read, and these are the rows of as many cells as the second argument says, or sixteen,
but not of more than there are from that address on; a dump of no cells writes nothing. Otherwise
there is one complaint, of the first argument that is not accepted or else of the address, and
nothing more. In any case the machine stays as it is and nothing is logged. -/
theorem dump_shows_cells (arguments : List String) (m : Machine) (k : σ) :
    (dump arguments m k).machine = m ∧ (dump arguments m k).log = [] ∧
    (∀ start length, Denotes m.state.pc.toNat arguments[0]? start →
      Denotes 16 arguments[1]? length → start < 256 →
      ∃ lines rows, lines.map readRow? = rows.map some ∧
        RowsOf rows m.state.memory start (min length (256 - start)) ∧ (length = 0 → lines = []) ∧
        dump arguments m k = sayAll (lines.map fun line => String.ofList line ++ "\n") m k ∧
        ∀ k : LineSink, k.room = none → ∃ text, HasLines text lines ∧
          dump arguments m k = ⟨.ok (), m, k.taking text none, []⟩) ∧
    (∀ text, arguments[0]? = some text → Rejected text →
      dump arguments m k = m.say ("ls8-rs: invalid number: " ++ text ++ "\n") k) ∧
    (∀ start text, Denotes m.state.pc.toNat arguments[0]? start → arguments[1]? = some text →
      Rejected text →
      dump arguments m k = m.say ("ls8-rs: invalid number: " ++ text ++ "\n") k) ∧
    ∀ start length, Denotes m.state.pc.toNat arguments[0]? start →
      Denotes 16 arguments[1]? length → 256 ≤ start →
      dump arguments m k =
        m.say ("ls8-rs: address 0x" ++ Numeral.hex 1 start ++ " is outside memory\n") k := by
  refine ⟨(dump_keeps arguments m k).1, (dump_keeps arguments m k).2, ?_, ?_, ?_, ?_⟩
  · intro start length first second inside
    have selects : Selects m.state arguments (.ok (UInt8.ofNat start, length)) :=
      .cells first second inside
    have same : (UInt8.ofNat start).toNat = start := UInt8.toNat_ofNat_of_lt' inside
    have rowsOf := rowsOf_slice m.state.memory (UInt8.ofNat start) length
    rw [same] at rowsOf
    refine ⟨_, _, rowsOf.map_readRow?, rowsOf, ?_, ?_, ?_⟩
    · rintro rfl
      have none : m.state.memory.slice (UInt8.ofNat start) 0 = [] := List.take_zero
      rw [none, dumpRows_nil, List.map_nil]
    · rw [dump_of_cells selects, same, List.map_map]
      simp only [Function.comp_def, String.ofList_toList]
      rfl
    · intro k room
      refine ⟨_, hasLines_rows rowsOf.ne_nil, ?_⟩
      rw [dump_of_cells selects, same]
      exact sayAll_of_unlimited room _ m
  · intro text first rejected
    rw [dump_of_complaint (.start first rejected), complain, complaintLine_invalidNumber]
  · intro start text first second rejected
    rw [dump_of_complaint (.length first second rejected), complain, complaintLine_invalidNumber]
  · intro start length first second outside
    rw [dump_of_complaint (.outside first second outside), complain, complaintLine_outsideMemory]

/-- A machine with a byte in the last cell but one. -/
def lastButOne : Machine := (Machine.new ⟨true, false, true⟩).withState
  (.start (Memory.zero.write 0xFE 0x2A))

/-- Of nine cells that are asked for only the last four of memory are there, and a length that is no
number is complained of before an address outside memory. -/
theorem lastButOne_is_shown :
    (∃ (lines : List (List Char)) (rows : List (Nat × List UInt8)) (text : String),
      lines.map readRow? = rows.map some ∧ rows.flatMap (·.2) = [0, 0, 0x2A, 0] ∧
      HasLines text lines ∧ dump ["0XfC", "9"] lastButOne LineSink.unlimited =
        ⟨.ok (), lastButOne, LineSink.unlimited.taking text none, []⟩) ∧
    dump ["256", "many"] lastButOne LineSink.unlimited =
      lastButOne.say "ls8-rs: invalid number: many\n" LineSink.unlimited := by
  have start : Denotes lastButOne.state.pc.toNat (some "0XfC") 0xFC :=
    .given (by decide) (standsFor_iff.2 (by decide))
  have nine : Denotes 16 (some "9") 9 := .given (by decide) (standsFor_iff.2 (by decide))
  have outside : Denotes lastButOne.state.pc.toNat (some "256") 256 :=
    .given (by decide) (standsFor_iff.2 (by decide))
  have rejected : Rejected "many" := rejected_of_readNotation?_eq_none (by decide)
  obtain ⟨-, -, shows, -⟩ := dump_shows_cells ["0XfC", "9"] lastButOne LineSink.unlimited
  obtain ⟨-, -, -, -, complains, -⟩ :=
    dump_shows_cells ["256", "many"] lastButOne LineSink.unlimited
  refine ⟨?_, complains _ _ outside rfl rejected⟩
  obtain ⟨lines, rows, read, rowsOf, -, -, written⟩ := shows _ _ start nine (by decide)
  obtain ⟨text, hasLines, shown⟩ := written LineSink.unlimited rfl
  refine ⟨lines, rows, text, read, ?_, hasLines, shown⟩
  rw [rowsOf.bytes]
  simp [List.range, List.range.loop, lastButOne, Memory.read_write, State.start]

end Debugger

end ByteMachine
