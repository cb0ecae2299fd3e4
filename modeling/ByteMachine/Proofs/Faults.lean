import ByteMachine.Proofs.Dispatch
import ByteMachine.Proofs.Failure

/-!
# Causes of faults

Whether a step fails, and with which fault, can be read off the bytes at the program counter, the
flags and the answer of the sink. A byte that stands for no opcode is the fault itself. Otherwise
the operands that have to name registers are looked at in order, and the first that names none is to
blame; only if there is none does a print instruction write, and the sink may refuse the line.
Nothing else goes wrong in a step, and nothing but that and a flush goes wrong in a run.
-/
namespace ByteMachine

/-! ## Operands that name registers -/

/-- The operand bytes that have to name registers, in the order in which they are looked at. The
second operand of a load is a value, and a jump that is not taken does not look at its operand. -/
def Opcode.registerOperands (op : Opcode) (fl : Flags) (x y : UInt8) : List UInt8 :=
  match op with
  | hlt => []
  | ldi | prn | push | pop | jmp => [x]
  | add | mul | cmp => [x, y]
  | jeq => if fl.equal then [x] else []
  | jne => if fl.equal then [] else [x]

/-- The first of some operands that names no register. -/
def firstInvalid? (operands : List UInt8) : Option UInt8 :=
  operands.find? fun b => 8 ≤ b.toNat

/-- An attempt goes by some operands: the first that names no register makes it fail, and if there
is none it succeeds. -/
inductive GoesBy {α : Type} (operands : List UInt8) : Except Fault α → Prop
  | failed {b : UInt8} (h : firstInvalid? operands = some b) :
      GoesBy operands (.error (.invalidRegister b))
  | succeeded {a : α} (h : firstInvalid? operands = none) : GoesBy operands (.ok a)

namespace GoesBy

variable {α β : Type} {operands : List UInt8} {x : Except Fault α}

theorem map (h : GoesBy operands x) (f : α → β) : GoesBy operands (x.map f) := by
  cases h with
  | failed h => exact .failed h
  | succeeded h => exact .succeeded h

theorem congr (h : GoesBy operands x) {others : List UInt8}
    (same : firstInvalid? others = firstInvalid? operands) : GoesBy others x := by
  cases h with
  | failed h => exact .failed (same.trans h)
  | succeeded h => exact .succeeded (same.trans h)

/-- Attempts that are made one after the other go by the operands of both. -/
theorem bind (h : GoesBy operands x) {rest : List UInt8} {f : α → Except Fault β}
    (hf : ∀ a, GoesBy rest (f a)) : GoesBy (operands ++ rest) (x >>= f) := by
  have both : firstInvalid? (operands ++ rest) =
      (firstInvalid? operands).or (firstInvalid? rest) := List.find?_append
  cases h with
  | failed h => exact .failed (by rw [both, h, Option.some_or])
  | @succeeded a h => exact (hf a).congr (by rw [both, h, Option.none_or])

theorem eq_error_iff (h : GoesBy operands x) {fault : Fault} :
    x = .error fault ↔ ∃ b, firstInvalid? operands = some b ∧ fault = .invalidRegister b := by
  cases h with
  | failed h => simp [h, eq_comm]
  | succeeded h => simp [h]

end GoesBy

theorem Register.ofByte_goesBy (b : UInt8) : GoesBy [b] (ofByte b) := by
  by_cases valid : b.toNat < count
  · have small : ¬8 ≤ b.toNat := Nat.not_le.2 valid
    rw [ofByte_of_lt valid]
    exact .succeeded (by simp [firstInvalid?, small])
  · have large : 8 ≤ b.toNat := Nat.not_lt.1 valid
    rw [ofByte_of_ge large]
    exact .failed (by simp [firstInvalid?, large])

theorem AluOp.apply_eq_bind (op : AluOp) (a b : UInt8) (rs : Registers) (fl : Flags) :
    op.apply a b rs fl =
      Register.ofByte a >>= fun r => (Register.ofByte b).map fun q => op.applyTo r q rs fl := by
  rcases ha : Register.ofByte a with fault | r
  · rw [apply, ha]
    rfl
  · rcases hb : Register.ofByte b with fault | q <;>
      simp [apply, ha, hb, bind, Except.bind, Except.map]

/-- The left operand of an arithmetic operation is looked at first. -/
theorem AluOp.apply_goesBy (op : AluOp) (a b : UInt8) (rs : Registers) (fl : Flags) :
    GoesBy [a, b] (op.apply a b rs fl) := by
  rw [apply_eq_bind]
  refine (Register.ofByte_goesBy a).bind ?_
  intro r
  exact (Register.ofByte_goesBy b).map _

/-- A jump goes by its operand if it is taken and by none if it is not. -/
theorem Instruction.jump_goesBy (c : Condition) (x : UInt8) (s : State) :
    GoesBy (if c.holds s.flags then [x] else []) ((jump c x).effect s) := by
  cases hc : c.holds s.flags with
  | true =>
    rw [effect, if_pos hc]
    exact (Register.ofByte_goesBy x).map _
  | false =>
    rw [effect_jump_of_not_holds hc]
    exact .succeeded rfl

/-- Instructions go by the register operands of their opcodes. -/
theorem Instruction.effect_goesBy (op : Opcode) (x y : UInt8) (s : State) :
    GoesBy (op.registerOperands s.flags x y) ((ofOpcode op x y).effect s) := by
  have one := Register.ofByte_goesBy x
  cases op with
  | hlt => exact .succeeded rfl
  | ldi | prn | push | pop => exact one.map _
  | add | mul | cmp => exact (AluOp.apply_goesBy _ x y _ _).map _
  | jmp => exact jump_goesBy .always x s
  | jeq => exact jump_goesBy .ifEqual x s
  | jne =>
    refine (jump_goesBy .ifUnequal x s).congr ?_
    cases he : s.flags.equal <;> simp [Opcode.registerOperands, Condition.holds, he]

/-! ## Steps of states -/

namespace State

/-- The byte at the program counter stands for no opcode. -/
def Undecodable (s : State) : Prop := ∀ op : Opcode, op.byte ≠ s.code 0

/-- The byte at the program counter stands for an opcode, and of the operands that have to name
registers the given one is the first that does not. -/
def Misnames (s : State) (b : UInt8) : Prop :=
  ∃ op : Opcode, op.byte = s.code 0 ∧
    firstInvalid? (op.registerOperands s.flags (s.code 1) (s.code 2)) = some b

/-- The byte at the program counter is a print instruction, and the register has the given content.
-/
def Prints (s : State) (v : UInt8) : Prop :=
  s.code 0 = Opcode.prn.byte ∧
    ∃ r : Register, r.val = (s.code 1).toNat ∧ s.registers.read r = v

variable {s : State}

theorem printed?_eq_some_iff_prints (hs : s.halted = false) {v : UInt8} :
    s.printed? = some v ↔ s.Prints v := by
  rw [printed?_eq_some_iff]
  constructor
  · rintro ⟨-, source, r, hf, hr, hv⟩
    obtain ⟨hb, rfl⟩ := fetch_eq_print_iff.1 hf
    exact ⟨hb, r, Register.ofByte_eq_ok_iff.1 hr, hv⟩
  · rintro ⟨hb, r, hr, hv⟩
    exact ⟨hs, s.code 1, r, fetch_eq_print_iff.2 ⟨hb, rfl⟩, Register.ofByte_eq_ok_iff.2 hr, hv⟩

theorem misnames_iff {op : Opcode} (hop : op.byte = s.code 0) {b : UInt8} :
    s.Misnames b ↔
      firstInvalid? (op.registerOperands s.flags (s.code 1) (s.code 2)) = some b := by
  constructor
  · rintro ⟨op', hop', h⟩
    rwa [Opcode.byte_injective (hop'.trans hop.symm)] at h
  · intro h
    exact ⟨op, hop, h⟩

theorem next_eq_error_iff (hs : s.halted = false) {fault : Fault} :
    s.next = .error fault ↔
      s.Undecodable ∧ fault = .illegalInstruction (s.code 0) s.pc ∨
        ∃ b, s.Misnames b ∧ fault = .invalidRegister b := by
  have hb : s.memory.read s.pc = s.code 0 := by simp [code]
  rcases ho : Opcode.ofByte? (s.code 0) with _ | op
  · have undecodable : s.Undecodable := by
      intro op hop
      simp [← hop] at ho
    have misnames : ∀ b, ¬s.Misnames b := by
      rintro b ⟨op, hop, -⟩
      exact undecodable op hop
    have hf : s.fetch = .error (.illegalInstruction (s.code 0) s.pc) := by
      rw [fetch, Instruction.decode_of_ofByte?_eq_none (hb ▸ ho), hb]
    simp [next_of_fetch_error hs hf, undecodable, misnames, eq_comm]
  · have hop := Opcode.byte_of_ofByte? ho
    have hf : s.fetch = .ok (.ofOpcode op (s.code 1) (s.code 2)) :=
      Instruction.decode_of_ofByte? (hb ▸ ho)
    have decodable : ¬s.Undecodable := fun none => none op hop
    have goes := (Instruction.effect_goesBy op (s.code 1) (s.code 2) s).map State.tick
    rw [next_of_fetch_ok hs hf, goes.eq_error_iff]
    simp only [decodable, false_and, false_or, misnames_iff hop]

/-- The arithmetic unit has the operation of every arithmetic instruction. -/
theorem exists_opcode_of_fetch_alu {op : AluOp} {left right : UInt8}
    (h : s.fetch = .ok (.alu op left right)) :
    ∃ opcode : Opcode, opcode.byte = s.code 0 ∧ AluOp.ofOpcode opcode = .ok op := by
  obtain ⟨opcode, hop, hi⟩ := Instruction.decode_eq_ok_iff.1 h
  have ho : opcode = op.opcode :=
    (Instruction.opcode_ofOpcode opcode _ _).symm.trans (congrArg Instruction.opcode hi)
  refine ⟨opcode, by simp [hop, code], ?_⟩
  rw [ho, AluOp.ofOpcode_opcode]

end State

/-! ## Steps and runs of machines -/

theorem Outcome.error_of_andThen {σ : Type} {o : Outcome σ} {f : Machine → σ → Outcome σ}
    {fault : Fault} (h : (o.andThen f).result = .error fault) :
    o.result = .error fault ∨ (f o.machine o.sink).result = .error fault := by
  rcases hr : o.result with fault' | ⟨⟩
  · rw [andThen_of_error hr] at h
    exact .inl (hr.symm.trans h)
  · rw [andThen_of_ok hr] at h
    exact .inr h

namespace Machine

variable {σ : Type} [Sink σ] {m : Machine} {k : σ} {fault : Fault}

/-- The machine is about to print a line that the sink refuses. -/
def LineRefused (m : Machine) (k : σ) (reason : String) : Prop :=
  ∃ v, m.state.Prints v ∧ (Sink.write k (printedLine v)).1 = .error reason

theorem flush_error (h : (m.flush k).result = .error fault) : ∃ reason, fault = .output reason := by
  rcases hf : Sink.flush k with ⟨reason | ⟨⟩, k'⟩
  · exact ⟨reason, by simpa [flush, hf, eq_comm] using h⟩
  · simp [flush, hf] at h

theorem step_eq_error_iff (hm : m.halted = false) :
    (m.step k).result = .error fault ↔
      m.state.next = .error fault ∨ ∃ reason, m.LineRefused k reason ∧ fault = .output reason := by
  have prints : ∀ v, m.state.Prints v ↔ m.state.printed? = some v := by
    intro v
    exact (State.printed?_eq_some_iff_prints hm).symm
  simp only [LineRefused, prints]
  rcases hn : m.state.next with fault' | s
  · have silent : ∀ v, m.state.printed? ≠ some v := by
      intro v hv
      simp [State.next_of_printed? hv] at hn
    simp [(step_of_next_error hm hn k).result, silent]
  rcases hp : m.state.printed? with _ | v
  · simp [(step_of_silent hm hn hp k).result]
  rcases hw : Sink.write k (printedLine v) with ⟨reason | ⟨⟩, k'⟩
  · simp [(step_of_refused hm hn hp hw).result, hw, eq_comm]
  · simp [(step_of_accepted hm hn hp hw).result, hw]

/-- The fault of a step is one of three kinds. -/
theorem step_error_kinds (h : (m.step k).result = .error fault) :
    (∃ b p, fault = .illegalInstruction b p) ∨ (∃ b, fault = .invalidRegister b) ∨
      ∃ reason, fault = .output reason := by
  by_cases halted : m.halted = true
  · simp [(step_of_halted halted k).result] at h
  have running : m.halted = false := by simpa using halted
  rcases (step_eq_error_iff running).1 h with hn | ⟨reason, -, rfl⟩
  · rcases (State.next_eq_error_iff running).1 hn with ⟨-, rfl⟩ | ⟨b, -, rfl⟩
    · exact .inl ⟨_, _, rfl⟩
    · exact .inr (.inl ⟨b, rfl⟩)
  · exact .inr (.inr ⟨reason, rfl⟩)

/-- Steps fail because one of them does. -/
theorem exists_step_of_stepUpTo_error {n : Nat} (h : (m.stepUpTo n k).result = .error fault) :
    ∃ (m' : Machine) (k' : σ), (m'.step k').result = .error fault := by
  induction n generalizing m k with
  | zero => simp [Outcome.done] at h
  | succ n ih =>
    rw [stepUpTo_succ] at h
    by_cases halted : m.halted = true
    · simp [halted, Outcome.done] at h
    rw [if_neg halted] at h
    rcases Outcome.error_of_andThen h with first | later
    · exact ⟨m, k, first⟩
    · exact ih later

/-- A run fails because one of its steps does or because the flush does. -/
theorem run_error_cases {o : Outcome σ} (h : m.run k = some o) (hr : o.result = .error fault) :
    (∃ (m' : Machine) (k' : σ), (m'.step k').result = .error fault) ∨
      ∃ reason, fault = .output reason := by
  obtain ⟨n, -, rfl⟩ := run_eq_some_iff.1 h
  rcases Outcome.error_of_andThen hr with steps | flush
  · exact .inl (exists_step_of_stepUpTo_error steps)
  · exact .inr (flush_error flush)

/-- A step of a machine that has not halted fails for one of three causes, and each cause makes it
fail with a fault that tells the cause: a byte that stands for no opcode, an operand that names no
register, or a line that is refused. Without such a cause it succeeds. Steps and runs of any machine
never ask the arithmetic unit for an operation that it lacks and never find an image too large. -/
theorem step_faults (m : Machine) (k : σ) :
    (m.halted = false →
      (∀ b p, (m.step k).result = .error (.illegalInstruction b p) ↔
        m.state.Undecodable ∧ b = m.state.code 0 ∧ p = m.state.pc) ∧
      (∀ b, (m.step k).result = .error (.invalidRegister b) ↔ m.state.Misnames b) ∧
      (∀ reason, (m.step k).result = .error (.output reason) ↔ m.LineRefused k reason) ∧
      (¬m.state.Undecodable → (∀ b, ¬m.state.Misnames b) → (∀ reason, ¬m.LineRefused k reason) →
        (m.step k).result = .ok ())) ∧
    (∀ op left right, m.state.fetch = .ok (.alu op left right) →
      ∃ opcode : Opcode, opcode.byte = m.state.code 0 ∧ AluOp.ofOpcode opcode = .ok op) ∧
    ∀ o, o = m.step k ∨ m.run k = some o →
      (∀ opcode, o.result ≠ .error (.unsupportedOperation opcode)) ∧
        ∀ size capacity, o.result ≠ .error (.programTooLarge size capacity) := by
  refine ⟨?_, ?_, ?_⟩
  · intro running
    have causes (f : Fault) : (m.step k).result = .error f ↔
        (m.state.Undecodable ∧ f = .illegalInstruction (m.state.code 0) m.state.pc ∨
          ∃ b, m.state.Misnames b ∧ f = .invalidRegister b) ∨
        ∃ reason, m.LineRefused k reason ∧ f = .output reason := by
      rw [step_eq_error_iff running, State.next_eq_error_iff running]
    refine ⟨?_, ?_, ?_, ?_⟩
    · intro b p
      simp [causes]
    · intro b
      simp [causes]
    · intro reason
      simp [causes]
    · intro decodes names accepted
      rcases hr : (m.step k).result with fault | ⟨⟩
      · simp [causes, decodes, names, accepted] at hr
      · rfl
  · intro op left right hf
    exact State.exists_opcode_of_fetch_alu hf
  · intro o ho
    have kinds : ∀ fault, o.result = .error fault →
        (∃ b p, fault = .illegalInstruction b p) ∨ (∃ b, fault = .invalidRegister b) ∨
          ∃ reason, fault = .output reason := by
      intro fault hr
      rcases ho with rfl | ho
      · exact step_error_kinds hr
      · rcases run_error_cases ho hr with ⟨m', k', hs⟩ | output
        · exact step_error_kinds hs
        · exact .inr (.inr output)
    refine ⟨?_, ?_⟩
    · intro opcode hr
      simpa using kinds _ hr
    · intro size capacity hr
      simpa using kinds _ hr

/-- An addition that names two registers which do not exist fails for the left one. -/
example : ((⟨⟨false, false, false⟩, .start (Memory.zero.overlay [0xA0, 9, 8])⟩ : Machine).step
    LineSink.unlimited).result = .error (.invalidRegister 9) := by
  decide +kernel

end Machine

end ByteMachine
