import ByteMachine.Proofs.Encoding
import ByteMachine.Proofs.Stack
import ByteMachine.Proofs.Steps

/-!
# Saving and restoring registers

A program saves registers by pushing them and restores them by popping as many values, the last one
first. The block of instructions that does so lies in the same memory as the stack. It does its work
as long as no push hits the block itself and no pop is into the stack pointer: the stack pointer
comes back to where it was, and every register that is popped into holds the value that the
corresponding push has put on the stack.
-/
namespace ByteMachine

namespace Register

/-- The operand byte that names a register. -/
def toByte (r : Register) : UInt8 := UInt8.ofNat r.val

theorem toNat_toByte (r : Register) : r.toByte.toNat = r.val :=
  UInt8.toNat_ofNat_of_lt' (Nat.lt_trans r.isLt (by decide))

end Register

/-! ## Programs in memory -/

namespace Instruction

variable {m : Memory} {a : UInt8} {program : List Instruction} {i : Instruction} {x : Nat}

/-- An instruction of a program in memory is decoded behind those before it. -/
theorem decode_of_stores_flatMap (h : m.Stores a (program.flatMap bytes))
    (hi : program[x]? = some i) :
    decode m (a + UInt8.ofNat ((program.take x).flatMap bytes).length) = .ok i := by
  obtain ⟨inside, rfl⟩ := List.getElem?_eq_some_iff.1 hi
  have parts : program = program.take x ++ program[x] :: program.drop (x + 1) := by
    rw [List.cons_getElem_drop_succ, List.take_append_drop]
  rw [parts, List.flatMap_append, List.flatMap_cons, Memory.stores_append,
    Memory.stores_append] at h
  exact decode_of_stores h.2.1

theorem length_flatMap_bytes {size : Nat} (h : ∀ i ∈ program, i.length = size) :
    (program.flatMap bytes).length = size * program.length := by
  induction program with
  | nil => rfl
  | cons i program ih =>
    rw [List.forall_mem_cons] at h
    rw [List.flatMap_cons, List.length_append, length_bytes, h.1, ih h.2, List.length_cons,
      Nat.mul_succ, Nat.add_comm]

end Instruction

/-! ## The block -/

/-- Pushes of some registers and then pops into others. -/
def saveRestore (rs qs : List Register) : List Instruction :=
  rs.map (fun r => .push r.toByte) ++ qs.map (fun q => .pop q.toByte)

variable {rs qs : List Register}

theorem eq_push_or_pop_of_mem_saveRestore {i : Instruction} (h : i ∈ saveRestore rs qs) :
    (∃ r : Register, i = .push r.toByte) ∨ ∃ q : Register, i = .pop q.toByte := by
  simp only [saveRestore, List.mem_append, List.mem_map] at h
  rcases h with ⟨r, -, rfl⟩ | ⟨q, -, rfl⟩
  · exact .inl ⟨r, rfl⟩
  · exact .inr ⟨q, rfl⟩

theorem length_of_mem_saveRestore {i : Instruction} (h : i ∈ saveRestore rs qs) :
    i.length = 2 := by
  rcases eq_push_or_pop_of_mem_saveRestore h with ⟨r, rfl⟩ | ⟨q, rfl⟩ <;> rfl

namespace State

variable {s t u : State} {n x : Nat} {vs : List UInt8} {v : UInt8}
  {r q : Register}

/-- At the program counter begins a block that saves registers and restores as many. It leaves the
stack pointer to itself, and it is clear of the cells to which it pushes. -/
structure Saves (s : State) (rs qs : List Register) : Prop where
  running : s.halted = false
  balanced : qs.length = rs.length
  fits : 4 * rs.length ≤ 256
  spares : .stackPointer ∉ qs
  stored : s.memory.Stores s.pc ((saveRestore rs qs).flatMap Instruction.bytes)
  clear : ∀ i < 4 * rs.length, ∀ j < rs.length,
    s.pc + UInt8.ofNat i ≠ s.registers.sp - UInt8.ofNat (j + 1)

/-- The content of a register when it is pushed behind `j` other registers, each of which has moved
the stack pointer. -/
def pushed (s : State) (j : Nat) (r : Register) : UInt8 :=
  if r = .stackPointer then s.registers.sp - UInt8.ofNat j else s.registers.read r

theorem take_succ_pushes {j : Nat} (hr : rs[j]? = some r) :
    (rs.mapIdx s.pushed).take (j + 1) = (rs.mapIdx s.pushed).take j ++ [s.pushed j r] := by
  rw [List.take_add_one, List.getElem?_mapIdx, hr]
  rfl

/-- Amid a block that pushes `n` registers: `x` of its instructions have been executed, and the
values are on the stack. -/
structure Amid (s : State) (n x : Nat) (vs : List UInt8) (t : State) : Prop where
  running : t.halted = false
  pc : t.pc = s.pc + UInt8.ofNat (2 * x)
  stack : t.Holds s.registers.sp vs
  cells : ∀ a, (∀ j < n, a ≠ s.registers.sp - UInt8.ofNat (j + 1)) →
    t.memory.read a = s.memory.read a

theorem pc_add_two {a : UInt8} (h : t.pc = a + UInt8.ofNat (2 * x)) :
    t.pc + UInt8.ofNat 2 = a + UInt8.ofNat (2 * (x + 1)) := by
  rw [h, Nat.mul_succ, UInt8.ofNat_add, UInt8.add_assoc]

theorem amid_zero (running : s.halted = false) : s.Amid n 0 [] s where
  running := running
  pc := by simp
  stack := ⟨by simp, by simp⟩
  cells _ _ := rfl

theorem Amid.push (h : s.Amid n x vs t) (room : vs.length < n) (small : n ≤ Memory.size)
    (hf : t.fetch = .ok (.push r.toByte)) :
    ∃ u, t.next = .ok u ∧ s.Amid n (x + 1) (vs ++ [t.registers.read r]) u ∧
      ∀ q ≠ .stackPointer, u.registers.read q = t.registers.read q := by
  have effect : (Instruction.push r.toByte).effect t =
      .ok ((t.advance 2).push (t.registers.read r)) :=
    Instruction.effect_push_eq_ok_iff.2 ⟨r, r.toNat_toByte.symm, rfl⟩
  refine ⟨((t.advance 2).push (t.registers.read r)).tick, ?_, ⟨h.running, ?_, ?_, ?_⟩, ?_⟩
  · rw [next_of_fetch_ok h.running hf, effect]
    rfl
  · exact pc_add_two h.pc
  · have before : (t.advance 2).Holds s.registers.sp vs := ⟨h.stack.sp, h.stack.cells⟩
    have after := before.push (Nat.lt_of_lt_of_le room small) (t.registers.read r)
    exact ⟨after.sp, after.cells⟩
  · intro a outside
    have here : t.registers.sp - 1 = s.registers.sp - UInt8.ofNat (vs.length + 1) := by
      rw [h.stack.sp, sub_ofNat_succ]
    have other : t.registers.sp - 1 ≠ a := by
      rw [here]
      exact (outside _ room).symm
    have kept := (Scope.confines_push (t.advance 2) (t.registers.read r)).cells a
      (by simpa using other.symm)
    exact kept.trans (h.cells a outside)
  · intro q hq
    exact (Scope.confines_push (t.advance 2) (t.registers.read r)).registers q (by simpa using hq)

theorem Amid.pop (h : s.Amid n x (vs ++ [v]) t) (hq : q ≠ .stackPointer)
    (hf : t.fetch = .ok (.pop q.toByte)) :
    ∃ u, t.next = .ok u ∧ s.Amid n (x + 1) vs u ∧ u.registers.read q = v ∧
      ∀ p ≠ .stackPointer, p ≠ q → u.registers.read p = t.registers.read p := by
  have effect : (Instruction.pop q.toByte).effect t = .ok ((t.advance 2).popTo q) :=
    Instruction.effect_pop_eq_ok_iff.2 ⟨q, q.toNat_toByte.symm, rfl⟩
  have before : (t.advance 2).Holds s.registers.sp (vs ++ [v]) := ⟨h.stack.sp, h.stack.cells⟩
  obtain ⟨popped, after⟩ := before.popTo hq
  refine ⟨((t.advance 2).popTo q).tick, ?_, ⟨h.running, ?_, ?_, h.cells⟩, popped, ?_⟩
  · rw [next_of_fetch_ok h.running hf, effect]
    rfl
  · exact pc_add_two h.pc
  · exact ⟨after.sp, after.cells⟩
  · intro p hp other
    exact (Scope.confines_popTo (t.advance 2) q).registers p (by simp [hp, other])

/-- Amid a block, its next instruction is at the program counter. -/
theorem Saves.fetch (block : s.Saves rs qs) (h : s.Amid rs.length x vs t) {i : Instruction}
    (hi : (saveRestore rs qs)[x]? = some i) : t.fetch = .ok i := by
  have size : ((saveRestore rs qs).flatMap Instruction.bytes).length = 4 * rs.length := by
    rw [Instruction.length_flatMap_bytes fun i => length_of_mem_saveRestore]
    simp only [saveRestore, List.length_append, List.length_map, block.balanced]
    omega
  have front : (((saveRestore rs qs).take x).flatMap Instruction.bytes).length = 2 * x := by
    have inside := (List.getElem?_eq_some_iff.1 hi).1
    rw [Instruction.length_flatMap_bytes fun i hi =>
      length_of_mem_saveRestore (List.mem_of_mem_take hi), List.length_take,
      Nat.min_eq_left (Nat.le_of_lt inside)]
  have stored : t.memory.Stores s.pc ((saveRestore rs qs).flatMap Instruction.bytes) := by
    refine block.stored.congr ?_
    intro i hi
    exact h.cells _ (block.clear i (by omega))
  have decoded := Instruction.decode_of_stores_flatMap stored hi
  rwa [front, ← h.pc] at decoded

/-- Neither pushes nor pops print. -/
theorem Saves.silent (block : s.Saves rs qs) (h : s.Amid rs.length x vs t) {i : Instruction}
    (hi : (saveRestore rs qs)[x]? = some i) : t.printed? = none := by
  rw [printed?, if_neg (by simp [h.running]), block.fetch h hi]
  rcases eq_push_or_pop_of_mem_saveRestore (List.mem_of_getElem? hi) with ⟨r, rfl⟩ | ⟨q, rfl⟩
  · rfl
  · rfl

end State

/-! ## The block on the machine -/

namespace Machine

variable {σ : Type} [Sink σ] {m : Machine} {k : σ} {n x i : Nat}
  {vs ws : List UInt8} {r q : Register}

/-- The state after a number of steps. -/
abbrev stateAfter (m : Machine) (k : σ) (x : Nat) : State := (m.steps k x).machine.state

/-- The machine has made `x` steps of a block without failure and without output. -/
structure Passes (m : Machine) (k : σ) (n x : Nat) (vs : List UInt8) : Prop where
  result : (m.steps k x).result = .ok ()
  sink : (m.steps k x).sink = k
  amid : m.state.Amid n x vs (m.stateAfter k x)

theorem passes_zero (running : m.halted = false) : m.Passes k n 0 [] where
  result := rfl
  sink := rfl
  amid := State.amid_zero running

/-- A silent step that comes off takes the machine on. -/
theorem Passes.succ (h : m.Passes k n x vs) {u : State} (hn : (m.stateAfter k x).next = .ok u)
    (silent : (m.stateAfter k x).printed? = none) (amid : m.state.Amid n (x + 1) ws u) :
    m.Passes k n (x + 1) ws ∧ m.stateAfter k (x + 1) = u := by
  have step := step_of_silent h.amid.running hn silent (m.steps k x).sink
  rw [← steps_succ] at step
  have reached : m.stateAfter k (x + 1) = u := by rw [stateAfter, step.machine, state_withState]
  refine ⟨⟨step.result, step.sink.trans h.sink, ?_⟩, reached⟩
  rwa [reached]

section Block

variable (block : m.state.Saves rs qs)
include block

/-- A push puts the content of its register on the stack and changes none of the others. -/
theorem Passes.push (h : m.Passes k rs.length x vs) (hr : rs[x]? = some r)
    (room : vs.length < rs.length) :
    m.Passes k rs.length (x + 1) (vs ++ [(m.stateAfter k x).registers.read r]) ∧
      ∀ q ≠ .stackPointer,
        (m.stateAfter k (x + 1)).registers.read q = (m.stateAfter k x).registers.read q := by
  have inside : x < rs.length := (List.getElem?_eq_some_iff.1 hr).1
  have small : rs.length ≤ Memory.size := by
    have fits := block.fits
    rw [Memory.size]
    omega
  have here : (saveRestore rs qs)[x]? = some (.push r.toByte) := by
    rw [saveRestore, List.getElem?_append_left (by simpa using inside), List.getElem?_map, hr]
    rfl
  obtain ⟨u, next, amid, kept⟩ := h.amid.push room small (block.fetch h.amid here)
  obtain ⟨passes, reached⟩ := h.succ next (block.silent h.amid here) amid
  rw [reached]
  exact ⟨passes, kept⟩

/-- A pop takes the value on top of the stack into its register and changes none of the others. -/
theorem Passes.pop {v : UInt8} (h : m.Passes k rs.length (rs.length + i) (vs ++ [v]))
    (hq : qs[i]? = some q) :
    m.Passes k rs.length (rs.length + i + 1) vs ∧
      (m.stateAfter k (rs.length + i + 1)).registers.read q = v ∧
      ∀ p ≠ .stackPointer, p ≠ q → (m.stateAfter k (rs.length + i + 1)).registers.read p =
        (m.stateAfter k (rs.length + i)).registers.read p := by
  have inside : i < rs.length := block.balanced ▸ (List.getElem?_eq_some_iff.1 hq).1
  have notSp : q ≠ .stackPointer := by
    rintro rfl
    exact block.spares (List.mem_of_getElem? hq)
  have here : (saveRestore rs qs)[rs.length + i]? = some (.pop q.toByte) := by
    rw [saveRestore, List.getElem?_append_right (by simp), List.length_map,
      Nat.add_sub_cancel_left, List.getElem?_map, hq]
    rfl
  obtain ⟨u, next, amid, popped, kept⟩ := h.amid.pop notSp (block.fetch h.amid here)
  obtain ⟨passes, reached⟩ := h.succ next (block.silent h.amid here) amid
  rw [reached]
  exact ⟨passes, popped, kept⟩

/-- After the first pushes the stack holds what their registers have had by then. -/
theorem passes_pushes (hx : x ≤ rs.length) :
    m.Passes k rs.length x ((rs.mapIdx m.state.pushed).take x) ∧
      ∀ q ≠ .stackPointer, (m.stateAfter k x).registers.read q = m.state.registers.read q := by
  induction x with
  | zero => exact ⟨passes_zero block.running, fun _ _ => rfl⟩
  | succ x ih =>
    obtain ⟨passes, kept⟩ := ih (by omega)
    have depth : ((rs.mapIdx m.state.pushed).take x).length = x := by
      rw [List.length_take, List.length_mapIdx]
      omega
    have hr : rs[x]? = some rs[x] := List.getElem?_eq_getElem hx
    have pushed : (m.stateAfter k x).registers.read rs[x] = m.state.pushed x rs[x] := by
      by_cases isSp : rs[x] = .stackPointer
      · have sp := passes.amid.stack.sp
        rw [depth] at sp
        rw [State.pushed, if_pos isSp, isSp]
        exact sp
      · rw [State.pushed, if_neg isSp, kept _ isSp]
    obtain ⟨passes', kept'⟩ := passes.push block hr (by omega)
    rw [pushed, ← State.take_succ_pushes hr] at passes'
    refine ⟨passes', ?_⟩
    intro q hq
    rw [kept' q hq, kept q hq]

/-- After the first pops the stack holds what has not been popped yet. -/
theorem passes_pops (hi : i ≤ rs.length) :
    m.Passes k rs.length (rs.length + i) ((rs.mapIdx m.state.pushed).take (rs.length - i)) := by
  induction i with
  | zero => exact (passes_pushes block (Nat.le_refl _)).1
  | succ i ih =>
    have passes := ih (by omega)
    have left : rs.length - i = rs.length - (i + 1) + 1 := by omega
    have hr : rs[rs.length - (i + 1)]? = some rs[rs.length - (i + 1)] :=
      List.getElem?_eq_getElem _
    have within : i < qs.length := by
      rw [block.balanced]
      omega
    have hq : qs[i]? = some qs[i] := List.getElem?_eq_getElem within
    rw [left, State.take_succ_pushes hr] at passes
    exact (passes.pop block hq).1

/-- A pop yields what the push that it answers has put, and no other register changes. -/
theorem restores {j : Nat} (hij : i + j + 1 = rs.length) (hr : rs[j]? = some r)
    (hq : qs[i]? = some q) :
    (m.stateAfter k (rs.length + i + 1)).registers.read q = m.state.pushed j r ∧
      ∀ p ≠ .stackPointer, p ≠ q → (m.stateAfter k (rs.length + i + 1)).registers.read p =
        (m.stateAfter k (rs.length + i)).registers.read p := by
  have passes := passes_pops (k := k) block (i := i) (by omega)
  have left : rs.length - i = j + 1 := by omega
  rw [left, State.take_succ_pushes hr] at passes
  exact (passes.pop block hq).2

/-- A register that is not popped into again keeps its content to the end of the block. -/
theorem read_stateAfter_of_notMem_drop (hi : i ≤ rs.length) (hr : r ≠ .stackPointer)
    (spared : r ∉ qs.drop i) :
    (m.stateAfter k (2 * rs.length)).registers.read r =
      (m.stateAfter k (rs.length + i)).registers.read r := by
  refine steps_keep (fun s => s.registers.read r) (by omega) ?_
  intro x hx inside
  obtain ⟨j, rfl⟩ : ∃ j, x = rs.length + j := ⟨x - rs.length, by omega⟩
  have within : j < qs.length := by
    rw [block.balanced]
    omega
  have hq : qs[j]? = some qs[j] := List.getElem?_eq_getElem within
  have other : r ≠ qs[j] := by
    intro same
    refine spared (List.mem_of_getElem? (i := j - i) ?_)
    rw [List.getElem?_drop, Nat.add_sub_cancel' (by omega), hq, same]
  have answered : rs[rs.length - 1 - j]? = some rs[rs.length - 1 - j] :=
    List.getElem?_eq_getElem _
  exact (restores block (by omega) answered hq).2 r hr other

theorem goesOn_of_saves : m.GoesOn k (2 * rs.length) := by
  have passes : ∀ x ≤ 2 * rs.length, ∃ vs, m.Passes k rs.length x vs := by
    intro x hx
    by_cases first : x ≤ rs.length
    · exact ⟨_, (passes_pushes block first).1⟩
    · have later := passes_pops (k := k) block (i := x - rs.length) (by omega)
      rw [Nat.add_sub_cancel' (by omega)] at later
      exact ⟨_, later⟩
  refine ⟨?_, ?_⟩
  · intro x hx
    have ⟨_, reached⟩ := passes x hx
    exact reached.result
  · intro x hx
    have ⟨_, reached⟩ := passes x hx
    exact reached.amid.running

end Block

/-- A block that pushes registers and pops as many values runs through, prints nothing and moves on
behind itself. Counted from 0, the `j`-th push puts the content of its register below the stack
pointer, which is smaller by `j` if it is pushed itself, and the pop that answers it takes that
value into its own register. In the end each register that is popped into holds the value of its
last pop, the stack pointer and all other registers are as they were, and so is memory but for the
cells of the stack. -/
theorem saves_and_restores {m : Machine} {rs qs : List Register} (block : m.state.Saves rs qs)
    (k : σ) :
    let s := m.state
    let n := rs.length
    let t := m.stateAfter k (2 * n)
    m.GoesOn k (2 * n) ∧ (m.steps k (2 * n)).sink = k ∧
    t.pc = s.pc + UInt8.ofNat (4 * n) ∧ t.registers.sp = s.registers.sp ∧
    (∀ j r, rs[j]? = some r →
      (m.stateAfter k (j + 1)).memory.read (s.registers.sp - UInt8.ofNat (j + 1)) =
        s.pushed j r) ∧
    (∀ i j r q, i + j + 1 = n → rs[j]? = some r → qs[i]? = some q →
      (m.stateAfter k (n + i + 1)).registers.read q = s.pushed j r ∧
      (q ∉ qs.drop (i + 1) → t.registers.read q = s.pushed j r)) ∧
    (∀ r ∉ qs, t.registers.read r = s.registers.read r) ∧
    ∀ a, (∀ j < n, a ≠ s.registers.sp - UInt8.ofNat (j + 1)) →
      t.memory.read a = s.memory.read a := by
  intro s n t
  have last := passes_pops (k := k) block (Nat.le_refl _)
  rw [Nat.sub_self, List.take_zero, ← Nat.two_mul] at last
  have sp : t.registers.sp = s.registers.sp := by simpa using last.amid.stack.sp
  refine ⟨goesOn_of_saves block, last.sink, ?_, sp, ?_, ?_, ?_, last.amid.cells⟩
  · have pc := last.amid.pc
    rwa [← Nat.mul_assoc] at pc
  · intro j r hr
    have inside : j < rs.length := (List.getElem?_eq_some_iff.1 hr).1
    have passes := (passes_pushes (k := k) block (x := j + 1) inside).1
    refine passes.amid.stack.cells j _ ?_
    rw [List.getElem?_take_of_lt (Nat.lt_succ_self j), List.getElem?_mapIdx, hr]
    rfl
  · intro i j r q hij hr hq
    have restored := (restores (k := k) block hij hr hq).1
    refine ⟨restored, ?_⟩
    intro spared
    have notSp : q ≠ .stackPointer := by
      rintro rfl
      exact block.spares (List.mem_of_getElem? hq)
    exact (read_stateAfter_of_notMem_drop block (by omega) notSp spared).trans restored
  · intro r spared
    by_cases isSp : r = .stackPointer
    · rw [isSp]
      exact sp
    · have kept := read_stateAfter_of_notMem_drop (k := k) block (Nat.zero_le _) isSp
        (by simpa using spared)
      exact kept.trans ((passes_pushes block (Nat.le_refl _)).2 r isSp)

/-- A machine that pushes the stack pointer twice and pops both copies into one register. -/
def savesStackPointer : Machine :=
  ⟨⟨false, false, false⟩,
    .start (Memory.zero.overlay [0x45, 7, 0x45, 0, 0x45, 7, 0x46, 1, 0x46, 2, 0x46, 1])⟩

/-- The later copy is popped first, and the earlier one is kept. -/
theorem savesStackPointer_saves_and_restores :
    let s := savesStackPointer.stateAfter LineSink.unlimited
    savesStackPointer.state.Saves [7, 0, 7] [1, 2, 1] ∧ (s 4).registers.read 1 = 0xF2 ∧
      (s 6).registers.read 1 = 0xF4 ∧ (s 6).registers.read 2 = 0 ∧ (s 6).registers.sp = 0xF4 ∧
      (s 6).memory.read 0 = Opcode.push.byte := by
  have block : savesStackPointer.state.Saves [7, 0, 7] [1, 2, 1] :=
    ⟨rfl, rfl, by decide, by decide, Memory.stores_overlay (by decide), by decide⟩
  obtain ⟨-, -, -, sp, -, restored, -, cells⟩ := saves_and_restores block LineSink.unlimited
  have last := restored 0 2 7 1 rfl rfl rfl
  have middle := restored 1 1 0 2 rfl rfl rfl
  have first := restored 2 0 7 1 rfl rfl rfl
  simp only [List.length_cons, List.length_nil, Nat.reduceAdd, Nat.reduceMul]
    at sp last middle first cells
  have start : savesStackPointer.state.registers.sp = 0xF4 := Registers.sp_start
  refine ⟨block, ?_, ?_, ?_, sp.trans start, ?_⟩
  · exact last.1.trans (by decide +kernel)
  · exact first.1.trans (by decide +kernel)
  · exact (middle.2 (by decide)).trans (by decide +kernel)
  · have apart : ∀ j < 3, (0 : UInt8) ≠ 0xF4 - UInt8.ofNat (j + 1) := by decide
    rw [← start] at apart
    exact (cells 0 apart).trans (by decide +kernel)

end Machine

end ByteMachine
