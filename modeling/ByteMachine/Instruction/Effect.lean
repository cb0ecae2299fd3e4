import ByteMachine.Instruction
import ByteMachine.State

/-!
# Effects of instructions

`Instruction.effect` says what an instruction does to the state, and `Instruction.printed?` what it
writes. The two are kept apart because what is written never decides how the state goes on. An
instruction that fails names its reason and yields no state. `State.next` is one whole step:
decoding at the program counter, the effect, and the count of one more cycle; a halted machine stays
as it is.
-/
namespace ByteMachine

namespace Instruction

/-- The state after the instruction. The program counter moves past the instruction unless a jump
replaces it, and a jump that is not taken does not look at its register. -/
def effect (i : Instruction) (s : State) : Except Fault State :=
  let after := s.advance i.length
  match i with
  | halt => .ok { after with halted := true }
  | load target value =>
    (Register.ofByte target).map fun r => { after with registers := s.registers.write r value }
  | print source => (Register.ofByte source).map fun _ => after
  | alu op left right =>
    (op.apply left right s.registers s.flags).map fun (registers, flags) =>
      { after with registers, flags }
  | push source => (Register.ofByte source).map fun r => after.push (s.registers.read r)
  | pop target => after.pop target
  | jump condition target =>
    if condition.holds s.flags then
      (Register.ofByte target).map fun r => { s with pc := s.registers.read r }
    else .ok after

/-- The value that the instruction writes, if it writes one. -/
def printed? (i : Instruction) (s : State) : Option UInt8 :=
  match i with
  | print source => (s.registers.get source).toOption
  | _ => none

/-! ## What it takes to succeed -/

variable {s u : State}

theorem effect_load_eq_ok_iff {target value : UInt8} :
    (load target value).effect s = .ok u ↔
      ∃ r : Register, r.val = target.toNat ∧
        { s.advance 3 with registers := s.registers.write r value } = u :=
  Register.map_ofByte_eq_ok_iff

theorem effect_print_eq_ok_iff {source : UInt8} :
    (print source).effect s = .ok u ↔
      ∃ r : Register, r.val = source.toNat ∧ s.advance 2 = u :=
  Register.map_ofByte_eq_ok_iff

theorem effect_alu_eq_ok_iff {op : AluOp} {left right : UInt8} :
    (alu op left right).effect s = .ok u ↔
      ∃ r q : Register, r.val = left.toNat ∧ q.val = right.toNat ∧
        { s.advance 3 with
          registers := (op.applyTo r q s.registers s.flags).1
          flags := (op.applyTo r q s.registers s.flags).2 } = u := by
  have hl : (alu op left right).length = 3 := by cases op <;> rfl
  constructor
  · intro h
    rcases ha : op.apply left right s.registers s.flags with fault | t
    · simp [effect, ha, Except.map] at h
    · obtain ⟨r, q, hr, hq, rfl⟩ := AluOp.apply_eq_ok_iff.1 ha
      refine ⟨r, q, hr, hq, ?_⟩
      simpa [effect, ha, Except.map, hl] using h
  · rintro ⟨r, q, hr, hq, rfl⟩
    rw [effect, AluOp.apply_eq_ok_iff.2 ⟨r, q, hr, hq, rfl⟩, hl]
    rfl

theorem effect_push_eq_ok_iff {source : UInt8} :
    (push source).effect s = .ok u ↔
      ∃ r : Register, r.val = source.toNat ∧ (s.advance 2).push (s.registers.read r) = u :=
  Register.map_ofByte_eq_ok_iff

theorem effect_pop_eq_ok_iff {target : UInt8} :
    (pop target).effect s = .ok u ↔
      ∃ r : Register, r.val = target.toNat ∧ (s.advance 2).popTo r = u :=
  Register.map_ofByte_eq_ok_iff

theorem effect_jump_eq_ok_iff {c : Condition} {target : UInt8} (h : c.holds s.flags = true) :
    (jump c target).effect s = .ok u ↔
      ∃ r : Register, r.val = target.toNat ∧ { s with pc := s.registers.read r } = u := by
  rw [effect, if_pos h]
  exact Register.map_ofByte_eq_ok_iff

theorem effect_jump_of_not_holds {c : Condition} (h : c.holds s.flags = false) (target : UInt8) :
    (jump c target).effect s = .ok (s.advance 2) := by
  have hl : (jump c target).length = 2 := by cases c <;> rfl
  simp [effect, h, hl]

/-- An instruction does not count cycles, and it moves on behind itself unless it is a jump that is
taken. -/
theorem moves_of_effect {i : Instruction} (h : i.effect s = .ok u) :
    u.cycles = s.cycles ∧
      ((∀ c target, i = jump c target → c.holds s.flags = false) →
        u.pc = s.pc + UInt8.ofNat i.length) := by
  cases i with
  | halt =>
    obtain rfl := Except.ok.inj h
    exact ⟨rfl, fun _ => rfl⟩
  | load =>
    obtain ⟨-, -, rfl⟩ := effect_load_eq_ok_iff.1 h
    exact ⟨rfl, fun _ => rfl⟩
  | print =>
    obtain ⟨-, -, rfl⟩ := effect_print_eq_ok_iff.1 h
    exact ⟨rfl, fun _ => rfl⟩
  | alu op =>
    obtain ⟨-, -, -, -, rfl⟩ := effect_alu_eq_ok_iff.1 h
    exact ⟨rfl, fun _ => by cases op <;> rfl⟩
  | push =>
    obtain ⟨-, -, rfl⟩ := effect_push_eq_ok_iff.1 h
    exact ⟨rfl, fun _ => rfl⟩
  | pop =>
    obtain ⟨-, -, rfl⟩ := effect_pop_eq_ok_iff.1 h
    exact ⟨rfl, fun _ => rfl⟩
  | jump c target =>
    cases hc : c.holds s.flags with
    | true =>
      obtain ⟨-, -, rfl⟩ := (effect_jump_eq_ok_iff hc).1 h
      exact ⟨rfl, fun stays => absurd (stays c target rfl) (by simp [hc])⟩
    | false =>
      obtain rfl := Except.ok.inj ((effect_jump_of_not_holds hc target).symm.trans h)
      exact ⟨rfl, fun _ => by cases c <;> rfl⟩

end Instruction

namespace State

/-- The instruction at the program counter. -/
def fetch (s : State) : Except Fault Instruction := Instruction.decode s.memory s.pc

/-- The state after one step. -/
def next (s : State) : Except Fault State :=
  if s.halted then .ok s
  else do
    let i ← s.fetch
    let s' ← i.effect s
    return s'.tick

/-- The value that the next step writes, if it writes one. -/
def printed? (s : State) : Option UInt8 :=
  if s.halted then none
  else
    match s.fetch with
    | .ok i => i.printed? s
    | .error _ => none

theorem next_of_halted {s : State} (h : s.halted = true) : s.next = .ok s := by
  simp [next, h]

theorem next_of_fetch_error {s : State} {fault : Fault} (h : s.halted = false)
    (hf : s.fetch = .error fault) : s.next = .error fault := by
  simp [next, h, hf, bind, Except.bind]

theorem next_of_fetch_ok {s : State} {i : Instruction} (h : s.halted = false)
    (hf : s.fetch = .ok i) : s.next = (i.effect s).map tick := by
  rcases he : i.effect s with fault | u <;>
    simp [next, h, hf, he, bind, Except.bind, pure, Except.pure, Except.map]

theorem next_eq_ok_iff {s t : State} (h : s.halted = false) :
    s.next = .ok t ↔ ∃ i u, s.fetch = .ok i ∧ i.effect s = .ok u ∧ u.tick = t := by
  rcases hf : s.fetch with fault | i
  · simp [next, h, hf, bind, Except.bind]
  · rcases he : i.effect s with fault | u <;>
      simp [next, h, hf, he, bind, Except.bind, pure, Except.pure]

theorem printed?_of_halted {s : State} (h : s.halted = true) : s.printed? = none := by
  simp [printed?, h]

/-- What a step writes is the content of the register that a print instruction names. -/
theorem printed?_eq_some_iff {s : State} {v : UInt8} :
    s.printed? = some v ↔
      s.halted = false ∧ ∃ source r, s.fetch = .ok (.print source) ∧
        Register.ofByte source = .ok r ∧ s.registers.read r = v := by
  by_cases h : s.halted = true
  · simp [printed?, h]
  rcases hf : s.fetch with fault | i
  · simp [printed?, h, hf]
  cases i with
  | print source =>
    rcases hr : Register.ofByte source with fault | r <;>
      simp [printed?, h, hf, hr, Instruction.printed?, Registers.get, Except.map, Except.toOption]
  | _ => simp [printed?, h, hf, Instruction.printed?]

/-- A step that writes moves on behind the print instruction. -/
theorem next_of_printed? {s : State} {v : UInt8} (h : s.printed? = some v) :
    s.next = .ok (s.advance 2).tick := by
  obtain ⟨hs, source, r, hf, hr, -⟩ := printed?_eq_some_iff.1 h
  have he : (Instruction.print source).effect s = .ok (s.advance 2) := by
    rw [Instruction.effect, hr]
    rfl
  simp [next, hs, hf, he, bind, Except.bind, pure, Except.pure]

end State

end ByteMachine
