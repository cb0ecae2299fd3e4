import ByteMachine.Proofs.Output

/-!
# The account of the stack pointer

A push moves the stack pointer down by one and a pop moves it up by one, whatever they push or pop.
Other instructions reach it only as register 7, and only those that write to their first operand: a
load, a sum, a product, or a pop into it. As long as none of these has been executed, the stack
pointer tells how many more values were pushed than popped, modulo 256. Instructions that have
failed do not count, in which order the others came does not matter, and neither does how often the
program counter or the stack pointer has gone round.
-/
namespace ByteMachine

/-- Whether the instruction puts a value of its own into the stack pointer. -/
def Instruction.replacesSp (i : Instruction) : Bool :=
  i.opcode ∈ [Opcode.ldi, .add, .mul, .pop] && i.operands.head? == some 7

/-- How many of the executed instructions have the opcode. -/
def countOf (op : Opcode) (es : List Executed) : Nat := es.countP (·.instruction.opcode == op)

theorem countOf_append (op : Opcode) (es es' : List Executed) :
    countOf op (es ++ es') = countOf op es + countOf op es' :=
  List.countP_append

/-! ## What one instruction does -/

theorem Register.stackPointer_ne {r : Register} {x : UInt8} (hr : r.val = x.toNat) (hx : x ≠ 7) :
    stackPointer ≠ r := by
  rintro rfl
  exact hx (UInt8.toNat_inj.1 hr.symm)

/-- An instruction that does not replace the stack pointer moves it if it pushes or pops, and leaves
it alone if it does anything else, also when register 7 is an operand of it. -/
theorem Opcode.sp_of_turns {op : Opcode} {x y : UInt8} {s t : State} (h : op.Turns x y s t)
    (spares : (Instruction.ofOpcode op x y).replacesSp = false) :
    t.registers.sp =
      if op = .push then s.registers.sp - 1
      else if op = .pop then s.registers.sp + 1 else s.registers.sp := by
  -- A register that is written is another one, because the operand that names it is not 7.
  have other {r : Register} (hr : r.val = x.toNat) (writes : op ∈ [ldi, add, mul, pop])
      (named : (Instruction.ofOpcode op x y).operands.head? = some x) : .stackPointer ≠ r := by
    refine Register.stackPointer_ne hr ?_
    rintro rfl
    rw [Instruction.replacesSp, Instruction.opcode_ofOpcode, named] at spares
    simp [writes] at spares
  cases op with
  | hlt => exact h.1.registers _ (by simp)
  | ldi =>
    obtain ⟨r, hr, confined, -⟩ := h
    exact confined.registers _ (by simpa using other hr (by simp) rfl)
  | add | mul =>
    obtain ⟨r, q, hr, -, confined, -⟩ := h
    exact confined.registers _ (by simpa using other hr (by simp) rfl)
  | push =>
    obtain ⟨r, -, -, moved, -⟩ := h
    exact moved
  | pop =>
    obtain ⟨r, hr, -, moved, -⟩ := h
    exact (moved (other hr (by simp) rfl).symm).2
  | prn =>
    obtain ⟨r, -, confined⟩ := h
    exact confined.registers _ (by simp)
  | cmp =>
    obtain ⟨r, q, -, -, confined, -⟩ := h
    exact confined.registers _ (by simp)
  | jmp | jeq | jne => exact h.registers _ (by simp)

/-- The stack pointer has gone down by the number of pushes and up by the number of pops. -/
def AccountsForSp (es : List Executed) (s t : State) : Prop :=
  (∀ e ∈ es, e.instruction.replacesSp = false) →
    (t.registers.sp.toNat : Int) =
      (s.registers.sp.toNat - countOf .push es + countOf .pop es) % 256

theorem accountsForSp_nil (s : State) : AccountsForSp [] s s := by
  intro _
  have := s.registers.sp.toNat_lt
  simp [countOf]
  omega

theorem AccountsForSp.append {es es' : List Executed} {s t u : State} (h : AccountsForSp es s t)
    (h' : AccountsForSp es' t u) : AccountsForSp (es ++ es') s u := by
  intro spares
  have first := h fun e he => spares e (List.mem_append_left _ he)
  have second := h' fun e he => spares e (List.mem_append_right _ he)
  rw [countOf_append, countOf_append]
  omega

namespace Machine

variable {σ : Type} [Sink σ] {m : Machine} {k : σ} {n : Nat} {e : Executed}

/-- What is executed does what its opcode is for. -/
theorem Executes.exists_turns (h : m.Executes k e) :
    ∃ op x y, e.instruction = .ofOpcode op x y ∧
      op.Turns x y m.state (m.step k).machine.state := by
  obtain ⟨u, he, ht⟩ := h.exists_effect
  obtain ⟨op, -, hi⟩ := Instruction.decode_eq_ok_iff.1 h.fetched
  rw [← hi] at he
  exact ⟨op, _, _, hi.symm, ht ▸ op.turns_of_effect he⟩

theorem Executes.accountsForSp (h : m.Executes k e) :
    AccountsForSp [e] m.state (m.step k).machine.state := by
  intro spares
  obtain ⟨op, x, y, hi, turns⟩ := h.exists_turns
  have spared := spares e List.mem_cons_self
  rw [hi] at spared
  have moved := op.sp_of_turns turns spared
  have opcode : e.instruction.opcode = op := by rw [hi, Instruction.opcode_ofOpcode]
  have below := m.state.registers.sp.toNat_lt
  have down : (m.state.registers.sp - 1).toNat = (255 + m.state.registers.sp.toNat) % 256 :=
    UInt8.toNat_sub _ _
  have up : (m.state.registers.sp + 1).toNat = (m.state.registers.sp.toNat + 1) % 256 :=
    UInt8.toNat_add _ _
  by_cases push : op = .push
  · rw [moved, if_pos push, down]
    simp [countOf, opcode, push]
    omega
  by_cases pop : op = .pop
  · rw [moved, if_neg push, if_pos pop, up]
    simp [countOf, opcode, pop]
  · rw [moved, if_neg push, if_neg pop]
    simp [countOf, opcode, push, pop]
    omega

/-- A step accounts for the stack pointer by what it executes, and if that is nothing, the stack
pointer stays where it is. -/
theorem accountsForSp_step (m : Machine) (k : σ) :
    AccountsForSp (m.executed? k).toList m.state (m.step k).machine.state := by
  rcases he : m.executed? k with _ | e
  · rw [machine_step_of_executed? he]
    exact accountsForSp_nil m.state
  · exact (executes_of_executed? he).accountsForSp

/-! ## Runs of steps -/

/-- What `n` steps execute that are made one after the other, whether or not they succeed. -/
def executedIn (m : Machine) (k : σ) (n : Nat) : List Executed :=
  (List.range n).filterMap fun i => (m.steps k i).machine.executed? (m.steps k i).sink

theorem executedIn_succ (m : Machine) (k : σ) (n : Nat) :
    m.executedIn k (n + 1) =
      m.executedIn k n ++ ((m.steps k n).machine.executed? (m.steps k n).sink).toList := by
  rw [executedIn, List.range_succ, List.filterMap_append]
  rcases he : (m.steps k n).machine.executed? (m.steps k n).sink with _ | e <;>
    simp [executedIn, he]

theorem accountsForSp_steps (m : Machine) (k : σ) (n : Nat) :
    AccountsForSp (m.executedIn k n) m.state (m.steps k n).machine.state := by
  induction n with
  | zero => exact accountsForSp_nil m.state
  | succ n ih =>
    rw [executedIn_succ, steps_succ]
    exact ih.append (accountsForSp_step _ _)

/-- There is only one number of steps after which a machine stops. -/
theorem StopsAfter.unique {i : Nat} (h : m.StopsAfter k n) (h' : m.StopsAfter k i) : n = i := by
  have notBefore {a b : Nat} (ha : m.StopsAfter k a) (hb : m.StopsAfter k b) : ¬a < b := by
    intro lt
    have going := hb.going a lt
    rcases ha.stopped with halted | failed
    · exact Bool.false_ne_true ((going.running a (Nat.le_refl a)).symm.trans halted)
    · exact failed (going.succeeded a (Nat.le_refl a))
  exact Nat.le_antisymm (Nat.not_lt.1 (notBefore h' h)) (Nat.not_lt.1 (notBefore h h'))

omit [Sink σ] in
theorem sp_load (m : Machine) (image : List UInt8) (k : σ) :
    (m.load image k).machine.state.registers.sp = Registers.stackStart := by
  by_cases fits : image.length ≤ Memory.size
  · rw [load_of_le fits]
    rfl
  · rw [load_of_gt (Nat.not_le.1 fits)]
    rfl

/-- The stack pointer is accounted for by pushes and pops. From any state, let a number of steps be
made of which some may fail or find the machine halted, and let none of those that succeed be a
load, a sum, a product or a pop with 7 as its first operand. Then the stack pointer is where it was,
less the number of pushes that have succeeded and plus the number of pops, modulo 256. A run comes
to where so many steps come to as it takes to stop. So when as many values have been popped as were
pushed since an image was loaded, the stack pointer is back at 0xF4. -/
theorem stack_pointer_is_accounted_for (m : Machine) (k : σ) (n : Nat)
    (spares : ∀ e ∈ m.executedIn k n, e.instruction.replacesSp = false) :
    let pushes := countOf .push (m.executedIn k n)
    let pops := countOf .pop (m.executedIn k n)
    let s := (m.steps k n).machine.state
    (s.registers.sp.toNat : Int) = (m.state.registers.sp.toNat - pushes + pops) % 256 ∧
    (∀ o, m.run k = some o → m.StopsAfter k n → o.machine.state = s) ∧
    ∀ (m₀ : Machine) (image : List UInt8) (k₀ : σ), m = (m₀.load image k₀).machine →
      pushes = pops → s.registers.sp = 0xF4 := by
  intro pushes pops s
  have account : (s.registers.sp.toNat : Int) =
      (m.state.registers.sp.toNat - pushes + pops) % 256 := accountsForSp_steps m k n spares
  refine ⟨account, ?_, ?_⟩
  · intro o ran stops
    obtain ⟨i, stops', ends⟩ := exists_steps_of_run ran
    obtain rfl := stops.unique stops'
    rw [ends.machine, machine_andThen_flush]
  · rintro m₀ image k₀ rfl even
    rw [sp_load, even] at account
    have start : Registers.stackStart.toNat = 0xF4 := rfl
    refine UInt8.toNat_inj.1 ?_
    rw [start] at account
    have : (0xF4 : UInt8).toNat = 0xF4 := rfl
    omega

/-- A program that prints, compares, pushes and pops about the stack pointer and fails in the
end. -/
def pushesStackPointer : List UInt8 :=
  [0x45, 7, 0x47, 7, 0xA7, 7, 7, 0x45, 0, 0x46, 1, 0x46, 2, 0x45, 9]

/-- Behind the second push the stack pointer is two down; three failed pushes later it is back. -/
theorem pushesStackPointer_is_accounted_for :
    let m := ((new ⟨false, false, false⟩).load pushesStackPointer LineSink.unlimited).machine
    (∀ e ∈ m.executedIn LineSink.unlimited 9, e.instruction.replacesSp = false) ∧
      (m.steps LineSink.unlimited 9).result = .error (.invalidRegister 9) ∧
      (m.steps LineSink.unlimited 4).machine.state.registers.sp.toNat = 0xF2 ∧
      (m.steps LineSink.unlimited 9).machine.state.registers.sp = 0xF4 := by
  intro m
  have spares : ∀ n ≤ 9, ∀ e ∈ m.executedIn LineSink.unlimited n,
      e.instruction.replacesSp = false := by decide +kernel
  have four := (stack_pointer_is_accounted_for m LineSink.unlimited 4 (spares 4 (by omega))).1
  have nine := stack_pointer_is_accounted_for m LineSink.unlimited 9 (spares 9 (by omega))
  have pushed : countOf .push (m.executedIn LineSink.unlimited 4) = 2 := by decide +kernel
  have popped : countOf .pop (m.executedIn LineSink.unlimited 4) = 0 := by decide +kernel
  have start : m.state.registers.sp.toNat = 0xF4 := by decide +kernel
  rw [pushed, popped, start] at four
  refine ⟨spares 9 (by omega), by decide +kernel, by omega, ?_⟩
  exact nine.2.2 _ _ LineSink.unlimited rfl (by decide +kernel)

end Machine

end ByteMachine
