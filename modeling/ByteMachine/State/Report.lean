import ByteMachine.State

/-!
# Reports on the state

Two texts show the state. The crash report is a block of lines with the registers, the flags and
the counters. A snapshot is one line of fixed width with the program counter, the three bytes that
start there and the registers; taking it changes nothing, and behind the last address its bytes come
from address 0 on.
-/
namespace ByteMachine

/-- What a trace line shows of a state. -/
structure Snapshot where
  pc : UInt8
  first : UInt8
  second : UInt8
  third : UInt8
  registers : Registers
  deriving DecidableEq

/-- A byte as two hexadecimal digits. -/
def hexByte (b : UInt8) : String := Numeral.hex 2 b.toNat

theorem toList_hexByte (b : UInt8) : (hexByte b).toList = Numeral.padded 16 2 b.toNat :=
  Numeral.toList_hex 2 b.toNat

namespace Snapshot

/-- The line of the snapshot. -/
def text (t : Snapshot) : String :=
  "TRACE: " ++ hexByte t.pc ++ " | " ++ hexByte t.first ++ " " ++ hexByte t.second ++ " " ++
    hexByte t.third ++ " |" ++
    t.registers.toList.foldr (fun v rest => " " ++ hexByte v ++ rest) ""

end Snapshot

/-- The snapshot of a memory and registers at an address. -/
def Memory.snapshot (m : Memory) (pc : UInt8) (registers : Registers) : Snapshot where
  pc := pc
  first := m.read pc
  second := m.read (pc + 1)
  third := m.read (pc + 2)
  registers := registers

namespace State

/-- The snapshot of the state at its program counter. -/
def snapshot (s : State) : Snapshot := s.memory.snapshot s.pc s.registers

/-- Whether a flag is set, in words. -/
def flagText (flag : Bool) : String := if flag then "SET" else "UNSET"

/-- The line of one register, by its number. -/
def registerLine (entry : UInt8 × Nat) : String :=
  "    R" ++ Numeral.decimal entry.2 ++ ": 0x" ++ hexByte entry.1

/-- The lines of the crash report. -/
def reportLines (s : State) : List String :=
  ["",
    "CPU Crash State:",
    "    Program Counter: 0x" ++ hexByte s.pc,
    "    Stack Pointer:   0x" ++ hexByte s.registers.sp,
    "    Cycles:          " ++ Numeral.decimal s.cycles.toNat,
    "",
    "Registers:"] ++
  s.registers.toList.zipIdx.map registerLine ++
  ["",
    "Flags Register: 0b" ++ Numeral.binary 3 s.flags.bits.toNat,
    "    Equal:   " ++ flagText s.flags.equal,
    "    Greater: " ++ flagText s.flags.greater,
    "    Less:    " ++ flagText s.flags.less]

/-- The crash report: its lines, without a line end behind the last one. -/
def report (s : State) : String := String.intercalate "\n" s.reportLines

end State

end ByteMachine
