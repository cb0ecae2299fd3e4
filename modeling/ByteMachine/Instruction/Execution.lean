import ByteMachine.Instruction.Effect
import ByteMachine.Sink

/-!
# Execution of instructions

`Instruction.execute` carries an instruction out access by access, in the order in which the machine
touches its registers, its flags, memory and the sink. An access that fails ends the instruction,
and whatever was done before it stays done: nothing is taken back.

`Instruction.perform` is the same instruction as a transaction. It asks for the fault first, writes
next, and replaces the state at the end, so it has no way to leave anything half done. That the two
agree (`Instruction.execute_eq_perform`) says of every instruction that the accesses that may fail
come before the first one that changes something.
-/
namespace ByteMachine

/-- The line in which a value is printed. -/
def printedLine (v : UInt8) : String := Numeral.decimal v.toNat ++ "\n"

/-- Accesses to a state and a sink, one after the other. A failure keeps what was done before it. -/
abbrev Action (σ : Type) := EStateM Fault (State × σ)

namespace Action

variable {σ : Type}

/-- Looks at the state. -/
def look : Action σ State := fun w => .ok w.1 w

/-- Changes the state. -/
def change (f : State → State) : Action σ Unit := fun w => .ok () (f w.1, w.2)

/-- Reads the register that an operand names. -/
def readRegister (index : UInt8) : Action σ UInt8 := fun w =>
  match w.1.registers.get index with
  | .ok v => .ok v w
  | .error fault => .error fault w

/-- Writes to the register that an operand names. -/
def writeRegister (index v : UInt8) : Action σ Unit := fun w =>
  match w.1.registers.set index v with
  | .ok registers => .ok () ({ w.1 with registers }, w.2)
  | .error fault => .error fault w

/-- Writes a text to the sink. -/
def say [Sink σ] (text : String) : Action σ Unit := fun w =>
  match Sink.write w.2 text with
  | (.ok (), k) => .ok () (w.1, k)
  | (.error reason, k) => .error (.output reason) (w.1, k)

@[simp] theorem bind_apply {α β : Type} (x : Action σ α) (f : α → Action σ β) (w : State × σ) :
    (x >>= f) w =
      match x w with
      | .ok a w' => f a w'
      | .error fault w' => .error fault w' := by
  cases h : x w <;> simp [bind, EStateM.bind, h]

@[simp] theorem look_apply (s : State) (k : σ) : look (s, k) = .ok s (s, k) := rfl

@[simp] theorem change_apply (f : State → State) (s : State) (k : σ) :
    change f (s, k) = .ok () (f s, k) := rfl

theorem readRegister_of_ok {index : UInt8} {r : Register} (h : Register.ofByte index = .ok r)
    (s : State) (k : σ) : readRegister index (s, k) = .ok (s.registers.read r) (s, k) := by
  simp [readRegister, Registers.get, h, Except.map]

theorem readRegister_of_error {index : UInt8} {fault : Fault}
    (h : Register.ofByte index = .error fault) (s : State) (k : σ) :
    readRegister index (s, k) = .error fault (s, k) := by
  simp [readRegister, Registers.get, h, Except.map]

theorem writeRegister_of_ok {index : UInt8} {r : Register} (h : Register.ofByte index = .ok r)
    (v : UInt8) (s : State) (k : σ) :
    writeRegister index v (s, k) =
      .ok () ({ s with registers := s.registers.write r v }, k) := by
  simp [writeRegister, Registers.set, h, Except.map]

theorem writeRegister_of_error {index : UInt8} {fault : Fault}
    (h : Register.ofByte index = .error fault) (v : UInt8) (s : State) (k : σ) :
    writeRegister index v (s, k) = .error fault (s, k) := by
  simp [writeRegister, Registers.set, h, Except.map]

end Action

open ByteMachine.Action

variable {σ : Type}

/-- Carries out an arithmetic operation: both operands are read before the result is written. -/
def AluOp.execute (op : AluOp) (left right : UInt8) : Action σ Unit := do
  let a ← readRegister left
  let b ← readRegister right
  match op with
  | add => writeRegister left (a + b)
  | mul => writeRegister left (a * b)
  | cmp => change fun s => { s with flags := .ofOrdering (compare a b) }

namespace Instruction

variable [Sink σ]

/-- Carries out the instruction. The program counter comes last. -/
def execute (i : Instruction) : Action σ Unit := do
  let moveOn : Action σ Unit := change (·.advance i.length)
  match i with
  | halt =>
    change fun s => { s with halted := true }
    moveOn
  | load target value =>
    writeRegister target value
    moveOn
  | print source =>
    let v ← readRegister source
    say (printedLine v)
    moveOn
  | alu op left right =>
    op.execute left right
    moveOn
  | push source =>
    let v ← readRegister source
    change (·.push v)
    moveOn
  | pop target =>
    let s ← look
    writeRegister target (s.memory.read s.registers.sp)
    change fun s => { s with registers := s.registers.setSp (s.registers.sp + 1) }
    moveOn
  | jump condition target =>
    let s ← look
    if condition.holds s.flags then
      let a ← readRegister target
      change fun s => { s with pc := a }
    else moveOn

/-- The instruction as a transaction: first its fault, then its output, then its effect. -/
def perform (i : Instruction) (s : State) (k : σ) : Except Fault State × σ :=
  match i.effect s with
  | .error fault => (.error fault, k)
  | .ok s' =>
    match i.printed? s with
    | none => (.ok s', k)
    | some v =>
      match Sink.write k (printedLine v) with
      | (.ok (), k') => (.ok s', k')
      | (.error reason, k') => (.error (.output reason), k')

/-- What a transaction leaves behind: the new state, or the old one as it was. -/
def settle (s : State) : Except Fault State × σ → EStateM.Result Fault (State × σ) Unit
  | (.ok s', k) => .ok () (s', k)
  | (.error fault, k) => .error fault (s, k)

/-- An instruction that fails half way leaves no trace in the state. -/
theorem execute_eq_perform (i : Instruction) (s : State) (k : σ) :
    i.execute (s, k) = settle s (i.perform s k) := by
  cases i with
  | halt => rfl
  | load target value =>
    rcases h : Register.ofByte target with fault | r
    · simp [execute, perform, effect, settle, h, writeRegister_of_error h, Except.map]
    · simp [execute, perform, effect, settle, h, writeRegister_of_ok h, Except.map, printed?,
        State.advance]
  | print source =>
    rcases h : Register.ofByte source with fault | r
    · simp [execute, perform, effect, settle, h, readRegister_of_error h, Except.map]
    · rcases hw : Sink.write k (printedLine (s.registers.read r)) with
        ⟨reason | ⟨⟩, k'⟩ <;>
      simp [execute, perform, effect, settle, h, readRegister_of_ok h, Except.map, printed?,
        Registers.get, Except.toOption, say, hw]
  | alu op left right =>
    rcases hl : Register.ofByte left with fault | r
    · simp [execute, AluOp.execute, perform, effect, settle, hl, readRegister_of_error hl,
        AluOp.apply, Except.map]
    · rcases hr : Register.ofByte right with fault | r'
      · simp [execute, AluOp.execute, perform, effect, settle, hl, hr, readRegister_of_ok hl,
          readRegister_of_error hr, AluOp.apply, Except.map]
      · cases op <;>
          simp [execute, AluOp.execute, perform, effect, settle, hl, hr, readRegister_of_ok hl,
            readRegister_of_ok hr, writeRegister_of_ok hl, AluOp.apply, Except.map, printed?,
            State.advance]
  | push source =>
    rcases h : Register.ofByte source with fault | r
    · simp [execute, perform, effect, settle, h, readRegister_of_error h, Except.map]
    · simp [execute, perform, effect, settle, h, readRegister_of_ok h, Except.map, printed?,
        State.advance, State.push]
  | pop target =>
    rcases h : Register.ofByte target with fault | r
    · simp [execute, perform, effect, settle, h, writeRegister_of_error h, Except.map, State.pop]
    · simp [execute, perform, effect, settle, h, writeRegister_of_ok h, Except.map, printed?,
        State.advance, State.pop, State.popTo]
  | jump condition target =>
    by_cases hc : condition.holds s.flags = true
    · rcases h : Register.ofByte target with fault | r
      · simp [execute, perform, effect, settle, hc, h, readRegister_of_error h, Except.map]
      · simp [execute, perform, effect, settle, hc, h, readRegister_of_ok h, Except.map, printed?]
    · simp [execute, perform, effect, settle, hc, printed?]

end Instruction

end ByteMachine
