import ByteMachine.Arithmetic
import ByteMachine.Memory

/-!
# Machine states

The state of the machine is what instructions act on: the program counter, the registers, the
flags, whether the machine has halted, the number of instructions that have succeeded since the last
reset, and memory. The stack lives in memory below the stack pointer and has no bounds of its own.
-/
namespace ByteMachine

/-- The state of the machine. -/
structure State where
  pc : UInt8
  registers : Registers
  flags : Flags
  halted : Bool
  cycles : UInt64
  memory : Memory
  deriving DecidableEq

namespace State

/-- The state in which a program starts, over the given memory. -/
def start (memory : Memory) : State where
  pc := 0
  registers := .start
  flags := .clear
  halted := false
  cycles := 0
  memory := memory

/-- Everything but memory as at the start. -/
def reset (s : State) : State := start s.memory

/-- The program counter moved on by a number of bytes. -/
def advance (s : State) (count : Nat) : State := { s with pc := s.pc + UInt8.ofNat count }

/-- One more instruction has succeeded. -/
def tick (s : State) : State := { s with cycles := s.cycles + 1 }

/-! ## The stack -/

/-- Moves the stack pointer down by one and stores a value there. -/
def push (s : State) (v : UInt8) : State :=
  let a := s.registers.sp - 1
  { s with registers := s.registers.setSp a, memory := s.memory.write a v }

/-- Puts the value at the stack pointer into a register and then moves the stack pointer up by one.
When that register is the stack pointer, it is the popped value that is moved up. -/
def popTo (s : State) (r : Register) : State :=
  let registers := s.registers.write r (s.memory.read s.registers.sp)
  { s with registers := registers.setSp (registers.sp + 1) }

/-- Pops into the register that an operand names. -/
def pop (s : State) (index : UInt8) : Except Fault State :=
  (Register.ofByte index).map s.popTo

@[simp] theorem memory_start (m : Memory) : (start m).memory = m := rfl

@[simp] theorem memory_reset (s : State) : s.reset.memory = s.memory := rfl

@[simp] theorem memory_advance (s : State) (n : Nat) : (s.advance n).memory = s.memory := rfl

@[simp] theorem registers_advance (s : State) (n : Nat) :
    (s.advance n).registers = s.registers := rfl

@[simp] theorem flags_advance (s : State) (n : Nat) : (s.advance n).flags = s.flags := rfl

@[simp] theorem halted_advance (s : State) (n : Nat) : (s.advance n).halted = s.halted := rfl

@[simp] theorem cycles_advance (s : State) (n : Nat) : (s.advance n).cycles = s.cycles := rfl

@[simp] theorem memory_push (s : State) (v : UInt8) :
    (s.push v).memory = s.memory.write (s.registers.sp - 1) v := rfl

@[simp] theorem sp_push (s : State) (v : UInt8) :
    (s.push v).registers.sp = s.registers.sp - 1 :=
  Registers.sp_setSp _ _

@[simp] theorem memory_popTo (s : State) (r : Register) : (s.popTo r).memory = s.memory := rfl

end State

end ByteMachine
