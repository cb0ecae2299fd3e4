import Mathlib.Data.Set.Defs
import ByteMachine.Proofs.Steps

/-!
# Cells that are read

A step reads the byte at the program counter, then the operand bytes of the opcode that this byte
stands for and no more, and a pop reads the cell at the stack pointer. What else is in memory has no
say in the step: it may differ between two machines, and they step alike. It stays different only
where it was, since a cell that is written without being read gets the same content in both.
-/
namespace ByteMachine

/-! ## What a step reads -/

/-- The addresses from which a step reads. -/
def State.reads (s : State) : List UInt8 :=
  if s.halted then []
  else
    match Opcode.ofByte? (s.memory.read s.pc) with
    | none => [s.pc]
    | some op =>
      (List.range op.length).map (fun i => s.pc + UInt8.ofNat i) ++
        if op = .pop then [s.registers.sp] else []

/-- The states are alike except for the cells in a set. -/
structure State.AgreesOutside (D : Set UInt8) (s t : State) : Prop where
  pc : t.pc = s.pc
  registers : t.registers = s.registers
  flags : t.flags = s.flags
  halted : t.halted = s.halted
  cycles : t.cycles = s.cycles
  memory : ∀ a ∉ D, t.memory.read a = s.memory.read a

/-- Two operations end with the same result and the same sink, in states that agree outside a set.
-/
structure Outcome.AgreesOutside {σ : Type} (D : Set UInt8) (o o' : Outcome σ) : Prop where
  result : o'.result = o.result
  sink : o'.sink = o.sink
  state : o.machine.state.AgreesOutside D o'.machine.state

/-- Two attempts that fail alike or lead to states that agree outside a set. -/
inductive AlikeOutside (D : Set UInt8) : Except Fault State → Except Fault State → Prop
  | failed (fault : Fault) : AlikeOutside D (.error fault) (.error fault)
  | agreed {s t : State} (h : s.AgreesOutside D t) : AlikeOutside D (.ok s) (.ok t)

variable {D : Set UInt8} {s t : State}

theorem State.agreesOutside_start {m n : Memory} (h : ∀ a ∉ D, n.read a = m.read a) :
    (start m).AgreesOutside D (start n) :=
  ⟨rfl, rfl, rfl, rfl, rfl, h⟩

namespace State.AgreesOutside

theorem advance (h : s.AgreesOutside D t) (n : Nat) :
    (s.advance n).AgreesOutside D (t.advance n) where
  pc := by rw [State.advance, State.advance, h.pc]
  registers := h.registers
  flags := h.flags
  halted := h.halted
  cycles := h.cycles
  memory := h.memory

theorem tick (h : s.AgreesOutside D t) : s.tick.AgreesOutside D t.tick where
  pc := h.pc
  registers := h.registers
  flags := h.flags
  halted := h.halted
  cycles := by rw [State.tick, State.tick, h.cycles]
  memory := h.memory

/-- What is pushed is the same in both states afterwards. -/
theorem push (h : s.AgreesOutside D t) (v : UInt8) : (s.push v).AgreesOutside D (t.push v) where
  pc := h.pc
  registers := by rw [State.push, State.push, h.registers]
  flags := h.flags
  halted := h.halted
  cycles := h.cycles
  memory := by
    intro a ha
    rw [State.memory_push, State.memory_push, h.registers, Memory.read_write, Memory.read_write,
      h.memory a ha]

theorem popTo (h : s.AgreesOutside D t) (hsp : s.registers.sp ∉ D) (r : Register) :
    (s.popTo r).AgreesOutside D (t.popTo r) where
  pc := h.pc
  registers := by rw [State.popTo, State.popTo, h.registers, h.memory _ hsp]
  flags := h.flags
  halted := h.halted
  cycles := h.cycles
  memory := h.memory

end State.AgreesOutside

theorem AlikeOutside.map {α : Type} (x : Except Fault α) {f g : α → State}
    (h : ∀ a, (f a).AgreesOutside D (g a)) : AlikeOutside D (x.map f) (x.map g) := by
  cases x with
  | error fault => exact .failed fault
  | ok a => exact .agreed (h a)

theorem AlikeOutside.map_tick {x y : Except Fault State} (h : AlikeOutside D x y) :
    AlikeOutside D (x.map State.tick) (y.map State.tick) := by
  cases h with
  | failed fault => exact .failed fault
  | agreed h => exact .agreed h.tick

/-! ## Decoding -/

namespace Instruction

/-- An instruction has no more of two bytes than its opcode takes. -/
theorem ofOpcode_congr {op : Opcode} {a b a' b' : UInt8} (ha : 2 ≤ op.length → a = a')
    (hb : 3 ≤ op.length → b = b') : ofOpcode op a b = ofOpcode op a' b' := by
  cases op with
  | hlt => rfl
  | ldi | add | mul | cmp =>
    rw [ha (by decide), hb (by decide)]
  | prn | push | pop | jmp | jeq | jne =>
    rw [ha (by decide)]
    rfl

theorem decode_congr {m n : Memory} {pc : UInt8} (h : n.read pc = m.read pc)
    (operands : ∀ op, Opcode.ofByte? (m.read pc) = some op → ∀ i < op.length,
      n.read (pc + UInt8.ofNat i) = m.read (pc + UInt8.ofNat i)) :
    decode n pc = decode m pc := by
  rcases hb : Opcode.ofByte? (m.read pc) with _ | op
  · rw [decode_of_ofByte?_eq_none hb, decode_of_ofByte?_eq_none (h ▸ hb), h]
  · rw [decode_of_ofByte? hb, decode_of_ofByte? (h ▸ hb)]
    congr 1
    refine ofOpcode_congr ?_ ?_
    · intro two
      exact operands op hb 1 two
    · intro three
      exact operands op hb 2 three

end Instruction

/-! ## Steps of states -/

theorem State.fetch_congr (h : s.AgreesOutside D t) (hs : s.halted = false)
    (unread : ∀ a ∈ s.reads, a ∉ D) : t.fetch = s.fetch := by
  have same : ∀ a ∈ s.reads, t.memory.read a = s.memory.read a := by
    intro a ha
    exact h.memory a (unread a ha)
  rw [fetch, fetch, h.pc]
  refine Instruction.decode_congr (same _ ?_) ?_
  · rw [reads, if_neg (by simp [hs])]
    rcases hb : Opcode.ofByte? (s.memory.read s.pc) with _ | op
    · simp
    · simp only [List.mem_append, List.mem_map, List.mem_range]
      exact .inl ⟨0, op.length_pos, by simp⟩
  · intro op hb i hi
    refine same _ ?_
    rw [reads, if_neg (by simp [hs]), hb]
    simp only [List.mem_append, List.mem_map, List.mem_range]
    exact .inl ⟨i, hi, rfl⟩

theorem State.sp_mem_reads (hs : s.halted = false) {target : UInt8}
    (hf : s.fetch = .ok (.pop target)) : s.registers.sp ∈ s.reads := by
  obtain ⟨op, hop, hi⟩ := Instruction.decode_eq_ok_iff.1 hf
  have hpop : op = .pop := by
    have he := congrArg Instruction.opcode hi
    rwa [Instruction.opcode_ofOpcode] at he
  rw [reads, if_neg (by simp [hs]), Opcode.ofByte?_eq_some_iff.2 hop, hpop]
  simp

/-- An instruction has the same effect on states that agree outside a set, unless it pops from it.
-/
theorem Instruction.effect_alike (h : s.AgreesOutside D t) (i : Instruction)
    (hsp : ∀ target, i = .pop target → s.registers.sp ∉ D) :
    AlikeOutside D (i.effect s) (i.effect t) := by
  have after := h.advance i.length
  cases i with
  | halt => exact .agreed ⟨after.pc, after.registers, after.flags, rfl, after.cycles, after.memory⟩
  | load target value =>
    rw [effect, effect, h.registers]
    refine .map _ ?_
    intro r
    exact ⟨after.pc, rfl, after.flags, after.halted, after.cycles, after.memory⟩
  | print source =>
    refine .map _ ?_
    intro r
    exact after
  | alu op left right =>
    rw [effect, effect, h.registers, h.flags]
    refine .map _ ?_
    intro result
    exact ⟨after.pc, rfl, rfl, after.halted, after.cycles, after.memory⟩
  | push source =>
    rw [effect, effect, h.registers]
    refine .map _ ?_
    intro r
    exact after.push _
  | pop target =>
    refine .map _ ?_
    intro r
    exact after.popTo (hsp target rfl) r
  | jump condition target =>
    rw [effect, effect, h.flags, h.registers]
    split
    · refine .map _ ?_
      intro r
      exact ⟨rfl, rfl, rfl, h.halted, h.cycles, h.memory⟩
    · exact .agreed after

theorem State.next_alike (h : s.AgreesOutside D t) (unread : ∀ a ∈ s.reads, a ∉ D) :
    AlikeOutside D s.next t.next := by
  by_cases halted : s.halted = true
  · rw [next_of_halted halted, next_of_halted (h.halted.trans halted)]
    exact .agreed h
  have running : s.halted = false := by simpa using halted
  have running' : t.halted = false := h.halted.trans running
  have same := fetch_congr h running unread
  rcases hf : s.fetch with fault | i
  · rw [next_of_fetch_error running hf, next_of_fetch_error running' (same.trans hf)]
    exact .failed fault
  · rw [next_of_fetch_ok running hf, next_of_fetch_ok running' (same.trans hf)]
    refine (i.effect_alike h ?_).map_tick
    rintro target rfl
    exact unread _ (sp_mem_reads running hf)

theorem State.printed?_congr (h : s.AgreesOutside D t) (unread : ∀ a ∈ s.reads, a ∉ D) :
    t.printed? = s.printed? := by
  by_cases halted : s.halted = true
  · rw [printed?_of_halted halted, printed?_of_halted (h.halted.trans halted)]
  have running : s.halted = false := by simpa using halted
  rw [printed?, printed?, h.halted, fetch_congr h running unread]
  rcases s.fetch with fault | i
  · rfl
  · cases i with
    | print source => simp only [Instruction.printed?, h.registers]
    | _ => rfl

/-! ## Steps of machines -/

section Machines

variable {σ : Type} {m m' : Machine}

theorem Outcome.EndsIn.agreesOutside {o o' : Outcome σ} {result : Except Fault Unit} {k : σ}
    (ends : o.EndsIn result m k) (ends' : o'.EndsIn result m' k)
    (h : m.state.AgreesOutside D m'.state) : o.AgreesOutside D o' where
  result := ends'.result.trans ends.result.symm
  sink := ends'.sink.trans ends.sink.symm
  state := by rwa [ends.machine, ends'.machine]

namespace Machine

variable [Sink σ]

theorem step_agrees (h : m.state.AgreesOutside D m'.state) (unread : ∀ a ∈ m.state.reads, a ∉ D)
    (k : σ) : (m.step k).AgreesOutside D (m'.step k) := by
  by_cases halted : m.halted = true
  · exact (step_of_halted halted k).agreesOutside (step_of_halted (h.halted.trans halted) k) h
  have running : m.halted = false := by simpa using halted
  have running' : m'.halted = false := h.halted.trans running
  have same := State.printed?_congr h unread
  have alike := State.next_alike h unread
  generalize hn : m.state.next = x, hn' : m'.state.next = x' at alike
  cases alike with
  | failed fault =>
    exact (step_of_next_error running hn k).agreesOutside (step_of_next_error running' hn' k) h
  | @agreed s s' hs =>
    have hs : (m.withState s).state.AgreesOutside D (m'.withState s').state := hs
    rcases hp : m.state.printed? with _ | v
    · have hp' := same.trans hp
      exact (step_of_silent running hn hp k).agreesOutside (step_of_silent running' hn' hp' k) hs
    have hp' := same.trans hp
    rcases hw : Sink.write k (printedLine v) with ⟨reason | ⟨⟩, k'⟩
    · exact (step_of_refused running hn hp hw).agreesOutside
        (step_of_refused running' hn' hp' hw) h
    · exact (step_of_accepted running hn hp hw).agreesOutside
        (step_of_accepted running' hn' hp' hw) hs

/-- Cells that are not read do not matter. Of two machines that agree outside a set of cells, let
the first one make steps that read none of these. Then the other one makes the same steps: each has
the same result and writes the same, and after each the machines still agree outside the set. -/
theorem steps_agree_of_unread (h : m.state.AgreesOutside D m'.state) (k : σ) (n : Nat)
    (unread : ∀ i < n, ∀ a ∈ (m.steps k i).machine.state.reads, a ∉ D) :
    ∀ i ≤ n, (m.steps k i).AgreesOutside D (m'.steps k i) := by
  intro i hi
  induction i with
  | zero => exact ⟨rfl, rfl, h⟩
  | succ i ih =>
    have before := ih (by omega)
    rw [steps_succ, steps_succ, before.sink]
    exact step_agrees before.state (unread i (by omega)) _

/-- A program that prints and pushes, with all other cells holding the given byte. -/
def printsAndPushes (rest : UInt8) : Machine :=
  ⟨⟨false, false, false⟩,
    .start (.ofFn fun a => [0x82, 0, 8, 0x47, 0, 0x45, 0, 0x01][a.toNat]?.getD rest)⟩

/-- Whatever the other cells hold, the program prints its line and halts. The push writes to one of
them without reading it. -/
theorem printsAndPushes_ignores_rest :
    ((printsAndPushes 0x47).steps LineSink.unlimited 4).sink.text = "8\n" ∧
      ((printsAndPushes 0x47).steps LineSink.unlimited 4).machine.halted = true := by
  have agree :
      (printsAndPushes 0).state.AgreesOutside {a | 8 ≤ a} (printsAndPushes 0x47).state := by
    refine State.agreesOutside_start ?_
    intro a ha
    have below : a.toNat < 8 := UInt8.lt_iff_toNat_lt.1 (UInt8.not_le.1 ha)
    simp [below]
  have code : ∀ i < 4,
      ∀ a ∈ ((printsAndPushes 0).steps LineSink.unlimited i).machine.state.reads, a < 8 := by
    decide +kernel
  have unread : ∀ i < 4,
      ∀ a ∈ ((printsAndPushes 0).steps LineSink.unlimited i).machine.state.reads,
        a ∉ {a : UInt8 | 8 ≤ a} := by
    intro i hi a ha
    exact UInt8.not_le.2 (code i hi a ha)
  have same := steps_agree_of_unread agree LineSink.unlimited 4 unread 4 (Nat.le_refl 4)
  refine ⟨?_, ?_⟩
  · rw [same.sink]
    decide +kernel
  · rw [halted, same.state.halted]
    decide +kernel

end Machine

end Machines

end ByteMachine
