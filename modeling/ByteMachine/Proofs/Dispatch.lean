import Mathlib.Control.Monad.Basic
import ByteMachine.Proofs.Step

/-!
# Dispatch

A step goes by the whole byte at the program counter and never asks the bit fields of that byte.
They tell the truth all the same: how far the program counter moves, whether it may be replaced and
whether the arithmetic unit is at work can be read off the byte. What a step changes beyond the
program counter and the cycles is confined to what its opcode is for, also where operands name the
same register or the stack pointer.
-/
namespace ByteMachine

/-- What may change besides the program counter and the cycles. -/
structure Scope where
  registers : List Register := []
  cells : List UInt8 := []
  flags : Bool := false
  halted : Bool := false

/-- Nothing changes outside the scope. -/
structure Scope.Confines (f : Scope) (s t : State) : Prop where
  registers : ∀ r ∉ f.registers, t.registers.read r = s.registers.read r
  cells : ∀ a ∉ f.cells, t.memory.read a = s.memory.read a
  flags : f.flags = false → t.flags = s.flags
  halted : f.halted = false → t.halted = s.halted

namespace State

/-- The byte some places behind the program counter. -/
def code (s : State) (offset : Nat) : UInt8 := s.memory.read (s.pc + UInt8.ofNat offset)

/-- The byte at the program counter stands for a jump, and the jump is taken. -/
def Jumps (s : State) : Prop :=
  s.code 0 = Opcode.jmp.byte ∨
    s.code 0 = Opcode.jeq.byte ∧ s.flags.equal = true ∨
    s.code 0 = Opcode.jne.byte ∧ s.flags.equal = false

end State

namespace Opcode

/-- What becomes of a state by the opcode with two operand bytes, the program counter and the cycles
left aside. -/
def Turns (op : Opcode) (x y : UInt8) (s t : State) : Prop :=
  match op with
  | hlt => Scope.Confines { halted := true } s t ∧ t.halted = true
  | ldi => ∃ r : Register, r.val = x.toNat ∧
      Scope.Confines { registers := [r] } s t ∧ t.registers.read r = y
  | prn => ∃ r : Register, r.val = x.toNat ∧ Scope.Confines {} s t
  | add => ∃ r q : Register, r.val = x.toNat ∧ q.val = y.toNat ∧
      Scope.Confines { registers := [r] } s t ∧
      (t.registers.read r).toNat =
        ((s.registers.read r).toNat + (s.registers.read q).toNat) % 256
  | mul => ∃ r q : Register, r.val = x.toNat ∧ q.val = y.toNat ∧
      Scope.Confines { registers := [r] } s t ∧
      (t.registers.read r).toNat =
        ((s.registers.read r).toNat * (s.registers.read q).toNat) % 256
  | cmp => ∃ r q : Register, r.val = x.toNat ∧ q.val = y.toNat ∧
      Scope.Confines { flags := true } s t ∧
      ((s.registers.read r).toNat = (s.registers.read q).toNat → t.flags.bits = 0b001) ∧
      ((s.registers.read r).toNat > (s.registers.read q).toNat → t.flags.bits = 0b010) ∧
      ((s.registers.read r).toNat < (s.registers.read q).toNat → t.flags.bits = 0b100)
  | push => ∃ r : Register, r.val = x.toNat ∧
      Scope.Confines { registers := [.stackPointer], cells := [s.registers.sp - 1] } s t ∧
      t.registers.sp = s.registers.sp - 1 ∧
      t.memory.read (s.registers.sp - 1) = s.registers.read r
  | pop => ∃ r : Register, r.val = x.toNat ∧
      Scope.Confines { registers := [r, .stackPointer] } s t ∧
      (r ≠ .stackPointer → t.registers.read r = s.memory.read s.registers.sp ∧
        t.registers.sp = s.registers.sp + 1) ∧
      (r = .stackPointer → t.registers.sp = s.memory.read s.registers.sp + 1)
  | jmp | jeq | jne => Scope.Confines {} s t

end Opcode

/-- The byte at the program counter tells how a step leads from one state to the other. -/
structure State.Dispatched (s t : State) : Prop where
  cycles : s.cycles.toNat < UInt64.size - 1 → t.cycles.toNat = s.cycles.toNat + 1
  straight : Opcode.setsPc (s.code 0) = false →
    t.pc.toNat = (s.pc.toNat + 1 + Opcode.operandCount (s.code 0)) % 256
  taken : Opcode.setsPc (s.code 0) = true → s.Jumps →
    ∃ r : Register, r.val = (s.code 1).toNat ∧ t.pc = s.registers.read r
  notTaken : Opcode.setsPc (s.code 0) = true → ¬s.Jumps → t.pc.toNat = (s.pc.toNat + 2) % 256
  jumps : Opcode.setsPc (s.code 0) = true ↔
    s.code 0 = Opcode.jmp.byte ∨ s.code 0 = Opcode.jeq.byte ∨ s.code 0 = Opcode.jne.byte
  arithmetic : Opcode.usesAlu (s.code 0) = true ↔
    s.code 0 = Opcode.add.byte ∨ s.code 0 = Opcode.mul.byte ∨ s.code 0 = Opcode.cmp.byte
  effect : ∃ op : Opcode, op.byte = s.code 0 ∧ op.Turns (s.code 1) (s.code 2) s t

/-! ## What changes -/

namespace Scope

variable {s t : State} {r : Register} {v : UInt8}

/-- Where the parts of a state are kept, nothing is outside any scope. -/
theorem confines_of_kept (f : Scope) (hr : t.registers = s.registers) (hm : t.memory = s.memory)
    (hf : f.flags = false → t.flags = s.flags) (hh : f.halted = false → t.halted = s.halted) :
    f.Confines s t where
  registers _ _ := by rw [hr]
  cells _ _ := by rw [hm]
  flags := hf
  halted := hh

/-- Writing one register changes that register. -/
theorem confines_write (hr : t.registers = s.registers.write r v) (hm : t.memory = s.memory)
    (hf : t.flags = s.flags) (hh : t.halted = s.halted) :
    Confines { registers := [r] } s t where
  registers q hq := by
    have hne : r ≠ q := by
      intro e
      exact hq (by simp [e])
    rw [hr, Registers.read_write_of_ne _ _ hne]
  cells _ _ := by rw [hm]
  flags _ := hf
  halted _ := hh

/-- Pushing changes the stack pointer and the cell below. -/
theorem confines_push (s : State) (v : UInt8) :
    Confines { registers := [.stackPointer], cells := [s.registers.sp - 1] } s (s.push v) where
  registers q hq := by
    have hne : Register.stackPointer ≠ q := by
      intro e
      exact hq (by simp [e])
    exact Registers.read_write_of_ne _ _ hne
  cells a ha := by
    have hne : s.registers.sp - 1 ≠ a := by
      intro e
      exact ha (by simp [e])
    rw [State.memory_push, Memory.read_write_of_ne _ _ hne]
  flags _ := rfl
  halted _ := rfl

/-- Popping changes the register that is popped into and the stack pointer. -/
theorem confines_popTo (s : State) (r : Register) :
    Confines { registers := [r, .stackPointer] } s (s.popTo r) where
  registers q hq := by
    have hr : r ≠ q := by
      intro e
      exact hq (by simp [e])
    have hsp : Register.stackPointer ≠ q := by
      intro e
      exact hq (by simp [e])
    rw [State.popTo, Registers.setSp, Registers.read_write_of_ne _ _ hsp,
      Registers.read_write_of_ne _ _ hr]
  cells _ _ := rfl
  flags _ := rfl
  halted _ := rfl

/-- The program counter and the cycles are left aside. -/
theorem Confines.moved {f : Scope} {s t : State} {n : Nat} (h : f.Confines (s.advance n) t) :
    f.Confines s t.tick :=
  ⟨h.registers, h.cells, h.flags, h.halted⟩

theorem confines_jump {c : Condition} {x : UInt8} {s u : State}
    (h : (Instruction.jump c x).effect s = .ok u) : Confines {} s u.tick := by
  cases hc : c.holds s.flags with
  | true =>
    obtain ⟨r, -, rfl⟩ := (Instruction.effect_jump_eq_ok_iff hc).1 h
    exact confines_of_kept _ rfl rfl (fun _ => rfl) (fun _ => rfl)
  | false =>
    obtain rfl := Except.ok.inj ((Instruction.effect_jump_of_not_holds hc x).symm.trans h)
    exact confines_of_kept _ rfl rfl (fun _ => rfl) (fun _ => rfl)

end Scope

variable {s t u : State} {x y : UInt8}

theorem Flags.bit_compare (a b : UInt8) :
    (a.toNat = b.toNat → bit (compare a b) = 0b001) ∧
      (a.toNat > b.toNat → bit (compare a b) = 0b010) ∧
      (a.toNat < b.toNat → bit (compare a b) = 0b100) := by
  refine ⟨?_, ?_, ?_⟩
  · intro h
    rw [UInt8.toNat_inj.1 h, Std.ReflOrd.compare_self]
    rfl
  · intro h
    rw [Std.compare_eq_gt.2 (UInt8.lt_iff_toNat_lt.2 h)]
    rfl
  · intro h
    rw [Std.compare_eq_lt.2 (UInt8.lt_iff_toNat_lt.2 h)]
    rfl

theorem State.read_popTo_of_ne (s : State) {r : Register} (h : r ≠ .stackPointer) :
    (s.popTo r).registers.read r = s.memory.read s.registers.sp ∧
      (s.popTo r).registers.sp = s.registers.sp + 1 := by
  have hr : Register.stackPointer ≠ r := h.symm
  constructor
  · rw [popTo, Registers.setSp, Registers.read_write_of_ne _ _ hr, Registers.read_write_self]
  · rw [popTo, Registers.sp_setSp, Registers.sp, Registers.read_write_of_ne _ _ h, Registers.sp]

theorem State.sp_popTo_stackPointer (s : State) :
    (s.popTo .stackPointer).registers.sp = s.memory.read s.registers.sp + 1 := by
  rw [popTo, Registers.sp_setSp, Registers.sp, Registers.read_write_self]

/-- An instruction that succeeds does what its opcode is for. -/
theorem Opcode.turns_of_effect {op : Opcode}
    (h : (Instruction.ofOpcode op x y).effect s = .ok u) : op.Turns x y s u.tick := by
  cases op with
  | hlt =>
    obtain rfl := Except.ok.inj h
    exact ⟨Scope.confines_of_kept _ rfl rfl (fun _ => rfl) (by simp), rfl⟩
  | ldi =>
    obtain ⟨r, hr, rfl⟩ := Instruction.effect_load_eq_ok_iff.1 h
    exact ⟨r, hr, Scope.confines_write rfl rfl rfl rfl, Registers.read_write_self _ _ _⟩
  | prn =>
    obtain ⟨r, hr, rfl⟩ := Instruction.effect_print_eq_ok_iff.1 h
    exact ⟨r, hr, Scope.confines_of_kept _ rfl rfl (fun _ => rfl) (fun _ => rfl)⟩
  | add =>
    obtain ⟨r, q, hr, hq, rfl⟩ := Instruction.effect_alu_eq_ok_iff.1 h
    refine ⟨r, q, hr, hq, Scope.confines_write rfl rfl rfl rfl, ?_⟩
    have written : (s.registers.write r (s.registers.read r + s.registers.read q)).read r =
        s.registers.read r + s.registers.read q := Registers.read_write_self _ _ _
    exact (congrArg UInt8.toNat written).trans (UInt8.toNat_add _ _)
  | mul =>
    obtain ⟨r, q, hr, hq, rfl⟩ := Instruction.effect_alu_eq_ok_iff.1 h
    refine ⟨r, q, hr, hq, Scope.confines_write rfl rfl rfl rfl, ?_⟩
    have written : (s.registers.write r (s.registers.read r * s.registers.read q)).read r =
        s.registers.read r * s.registers.read q := Registers.read_write_self _ _ _
    exact (congrArg UInt8.toNat written).trans (UInt8.toNat_mul _ _)
  | cmp =>
    obtain ⟨r, q, hr, hq, rfl⟩ := Instruction.effect_alu_eq_ok_iff.1 h
    refine ⟨r, q, hr, hq, ?_, Flags.bit_compare _ _⟩
    exact Scope.confines_of_kept _ rfl rfl (by simp) (fun _ => rfl)
  | push =>
    obtain ⟨r, hr, rfl⟩ := Instruction.effect_push_eq_ok_iff.1 h
    refine ⟨r, hr, (Scope.confines_push (s.advance 2) (s.registers.read r)).moved, ?_, ?_⟩
    · exact State.sp_push (s.advance 2) (s.registers.read r)
    · exact Memory.read_write_self _ _ (s.registers.read r)
  | pop =>
    obtain ⟨r, hr, rfl⟩ := Instruction.effect_pop_eq_ok_iff.1 h
    refine ⟨r, hr, (Scope.confines_popTo (s.advance 2) r).moved, ?_, ?_⟩
    · exact State.read_popTo_of_ne (s.advance 2)
    · rintro rfl
      exact State.sp_popTo_stackPointer (s.advance 2)
  | jmp => exact Scope.confines_jump h
  | jeq => exact Scope.confines_jump h
  | jne => exact Scope.confines_jump h

/-- Halting, setting the flags and writing to memory is for one opcode each. -/
theorem Opcode.exists_scope_of_turns {op : Opcode} (h : op.Turns x y s t) :
    ∃ f : Scope, f.Confines s t ∧ (op ≠ .hlt → f.halted = false) ∧
      (op ≠ .cmp → f.flags = false) ∧ (op ≠ .push → f.cells = []) := by
  cases op with
  | hlt => exact ⟨_, h.1, by simp⟩
  | ldi | pop =>
    obtain ⟨_, _, confined, _⟩ := h
    exact ⟨_, confined, by simp⟩
  | prn =>
    obtain ⟨_, _, confined⟩ := h
    exact ⟨_, confined, by simp⟩
  | add | mul | cmp =>
    obtain ⟨_, _, _, _, confined, _⟩ := h
    exact ⟨_, confined, by simp⟩
  | push =>
    obtain ⟨_, _, confined, _⟩ := h
    exact ⟨_, confined, by simp⟩
  | jmp | jeq | jne => exact ⟨_, h, by simp⟩

/-! ## Where it goes on -/

theorem toNat_add_ofNat (pc : UInt8) (n : Nat) :
    (pc + UInt8.ofNat n).toNat = (pc.toNat + n) % 256 := by
  rw [UInt8.toNat_add, UInt8.toNat_ofNat', Nat.add_mod_mod]

/-- An instruction without the mark of a jump moves on behind itself. -/
theorem Opcode.pc_of_effect {op : Opcode} (hop : setsPc op.byte = false)
    (h : (Instruction.ofOpcode op x y).effect s = .ok u) :
    u.pc = s.pc + UInt8.ofNat op.length := by
  have noJump (c : Condition) (target : UInt8) (hi : Instruction.ofOpcode op x y = .jump c target) :
      c.holds s.flags = false := by
    have hc : op = c.opcode :=
      (Instruction.opcode_ofOpcode op x y).symm.trans (congrArg Instruction.opcode hi)
    rw [Opcode.setsPc_byte_iff.2 ⟨c, hc⟩] at hop
    exact absurd hop (by simp)
  have hpc := (Instruction.moves_of_effect h).2 noJump
  rwa [Instruction.length, Instruction.opcode_ofOpcode] at hpc

theorem State.jumps_iff {c : Condition} (h : c.opcode.byte = s.code 0) :
    s.Jumps ↔ c.holds s.flags = true := by
  rw [Jumps, ← h]
  cases c <;> simp [Condition.opcode, Condition.holds, Opcode.byte]

/-! ## Whole steps -/

/-- What is at the program counter decides how a state goes on. -/
theorem State.dispatched_of_next (hs : s.halted = false) (h : s.next = .ok t) :
    s.Dispatched t := by
  obtain ⟨i, u, hf, he, rfl⟩ := (next_eq_ok_iff hs).1 h
  obtain ⟨op, hop, rfl⟩ := Instruction.decode_eq_ok_iff.1 hf
  have hb : op.byte = s.code 0 := by simpa [code] using hop
  refine ⟨?_, ?_, ?_, ?_, ?_, ?_, op, hb, op.turns_of_effect he⟩
  · intro below
    rw [tick, (Instruction.moves_of_effect he).1, UInt64.toNat_add]
    exact Nat.mod_eq_of_lt (Nat.add_lt_of_lt_sub below)
  · intro straight
    rw [← hb] at straight ⊢
    have hpc : u.pc = s.pc + UInt8.ofNat op.length := op.pc_of_effect straight he
    rw [tick, hpc, toNat_add_ofNat, Opcode.length_eq_operandCount, Nat.add_assoc]
  · intro marked jumps
    rw [← hb] at marked
    obtain ⟨c, rfl⟩ := Opcode.setsPc_byte_iff.1 marked
    rw [Instruction.ofOpcode_condition] at he
    obtain ⟨r, hr, rfl⟩ := (Instruction.effect_jump_eq_ok_iff ((jumps_iff hb).1 jumps)).1 he
    exact ⟨r, hr, rfl⟩
  · intro marked stays
    rw [← hb] at marked
    obtain ⟨c, rfl⟩ := Opcode.setsPc_byte_iff.1 marked
    have hc : c.holds s.flags = false := by simpa [jumps_iff hb] using stays
    rw [Instruction.ofOpcode_condition, Instruction.effect_jump_of_not_holds hc] at he
    obtain rfl := Except.ok.inj he
    exact toNat_add_ofNat s.pc 2
  · rw [← hb]
    cases op <;> decide
  · rw [← hb]
    cases op <;> decide

theorem State.fetch_eq_print_iff {source : UInt8} :
    s.fetch = .ok (.print source) ↔ s.code 0 = Opcode.prn.byte ∧ source = s.code 1 := by
  have hb : s.code 0 = s.memory.read s.pc := by simp [code]
  rw [fetch, Instruction.decode_eq_ok_iff, hb]
  constructor
  · rintro ⟨op, hop, hi⟩
    cases op with
    | prn => exact ⟨hop.symm, (Instruction.print.inj hi).symm⟩
    | _ => exact absurd hi (by simp [Instruction.ofOpcode])
  · rintro ⟨hop, rfl⟩
    exact ⟨.prn, hop.symm, rfl⟩

/-- A print instruction that succeeds has printed the content of its register. -/
theorem State.exists_printed_of_next (hs : s.halted = false) (h : s.next = .ok t)
    (hb : s.code 0 = Opcode.prn.byte) :
    ∃ r : Register, r.val = (s.code 1).toNat ∧ s.printed? = some (s.registers.read r) := by
  have hf : s.fetch = .ok (.print (s.code 1)) := fetch_eq_print_iff.2 ⟨hb, rfl⟩
  obtain ⟨i, u, hf', he, -⟩ := (next_eq_ok_iff hs).1 h
  obtain rfl := Except.ok.inj (hf.symm.trans hf')
  obtain ⟨r, hr, -⟩ := Instruction.effect_print_eq_ok_iff.1 he
  exact ⟨r, hr, printed?_eq_some_iff.2 ⟨hs, _, r, hf, Register.ofByte_eq_ok_iff.2 hr, rfl⟩⟩

/-- A step that succeeds does what the byte at the program counter tells, and only a print
instruction writes to the sink. -/
theorem Machine.step_dispatches {σ : Type} [Sink σ] {m : Machine} {k : σ}
    (hm : m.halted = false) (h : (m.step k).result = .ok ()) :
    m.state.Dispatched (m.step k).machine.state ∧ (m.step k).machine.options = m.options ∧
      (m.state.code 0 = Opcode.prn.byte → ∃ r : Register, r.val = (m.state.code 1).toNat ∧
        Sink.write k (printedLine (m.state.registers.read r)) = (.ok (), (m.step k).sink)) ∧
      (m.state.code 0 ≠ Opcode.prn.byte → (m.step k).sink = k) := by
  obtain ⟨t, hn, hstate, hsink⟩ := step_ok_cases hm h
  rw [hstate]
  refine ⟨State.dispatched_of_next hm hn, rfl, ?_, ?_⟩
  · intro hb
    obtain ⟨r, hr, hp⟩ := State.exists_printed_of_next hm hn hb
    rw [hp] at hsink
    exact ⟨r, hr, hsink⟩
  · intro hb
    have silent : m.state.printed? = none := by
      rcases hp : m.state.printed? with _ | v
      · rfl
      · obtain ⟨-, source, -, hf, -⟩ := State.printed?_eq_some_iff.1 hp
        exact absurd (State.fetch_eq_print_iff.1 hf).1 hb
    rw [silent] at hsink
    exact hsink

/-- A machine at the last address that is about to pop into the stack pointer. -/
def popsStackPointer : Machine :=
  ⟨⟨false, false, false⟩,
    { State.start (((Memory.zero.write 0xFF 0x46).write 0 7).write 0xF4 5) with pc := 0xFF }⟩

/-- The operand is found behind the last address, and the popped value is moved up. -/
theorem popsStackPointer_dispatches :
    popsStackPointer.halted = false ∧
      (popsStackPointer.step LineSink.unlimited).result = .ok () ∧
      (popsStackPointer.step LineSink.unlimited).machine.state.pc.toNat = 1 ∧
      (popsStackPointer.step LineSink.unlimited).machine.state.registers.sp = 6 := by
  have running : popsStackPointer.halted = false := rfl
  have ok : (popsStackPointer.step LineSink.unlimited).result = .ok () := by decide +kernel
  obtain ⟨dispatched, -⟩ := Machine.step_dispatches running ok
  have opcode : popsStackPointer.state.code 0 = Opcode.pop.byte := by
    simp [popsStackPointer, State.code, Memory.read_write, Opcode.byte]
  have operand : popsStackPointer.state.code 1 = 7 := by
    simp [popsStackPointer, State.code, Memory.read_write]
  have pc := dispatched.straight (by rw [opcode]; decide)
  obtain ⟨op, hop, turns⟩ := dispatched.effect
  obtain rfl : op = .pop := Opcode.byte_injective (hop.trans opcode)
  obtain ⟨r, hr, -, -, moved⟩ := turns
  rw [operand] at hr
  refine ⟨running, ok, ?_, (moved (Fin.ext hr)).trans ?_⟩
  · rw [pc, opcode]
    decide
  · simp [popsStackPointer, State.start, Registers.stackStart]

end ByteMachine
