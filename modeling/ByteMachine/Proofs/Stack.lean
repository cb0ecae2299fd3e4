import Mathlib.Data.List.Infix
import Mathlib.Data.List.Induction
import ByteMachine.Proofs.Dispatch

/-!
# The stack

The machine has no stack of its own. It has a stack pointer and memory, and the two are enough: as
long as no more is taken than was put and no more than 256 values are held, what is pushed and
popped is what a list would give. The values lie below the address at which the stack begins, the
first of them next to it, and go on behind address 0 with the last address. Nothing but the stack
pointer, the cells in which values have lain and the registers that were popped into has changed.
-/
namespace ByteMachine

open ByteMachine.Action

/-- Something done to the stack. -/
inductive StackOp where
  /-- Push a value. -/
  | push (v : UInt8)
  /-- Pop into the register that an operand names. -/
  | pop (index : UInt8)
  deriving DecidableEq, Repr

namespace StackOp

/-- The operation access by access. Popping writes the register before it moves the stack
pointer. -/
def execute {σ : Type} : StackOp → Action σ Unit
  | push v => change (·.push v)
  | pop index => do
    let s ← look
    writeRegister index (s.memory.read s.registers.sp)
    change fun s => { s with registers := s.registers.setSp (s.registers.sp + 1) }

/-- The operation on a state alone: how it ends and what it leaves behind. -/
def perform (op : StackOp) (s : State) : Except Fault Unit × State :=
  match op.execute (s, ()) with
  | .ok _ w => (.ok (), w.1)
  | .error fault w => (.error fault, w.1)

variable {s : State} {index v : UInt8} {r : Register}

@[simp] theorem perform_push (s : State) (v : UInt8) :
    (push v).perform s = (.ok (), s.push v) := rfl

theorem perform_pop_of_ok (h : Register.ofByte index = .ok r) (s : State) :
    (pop index).perform s = (.ok (), s.popTo r) := by
  simp [perform, execute, writeRegister_of_ok h, State.popTo]

theorem perform_pop_of_error {fault : Fault} (h : Register.ofByte index = .error fault)
    (s : State) : (pop index).perform s = (.error fault, s) := by
  simp [perform, execute, writeRegister_of_error h]

/-- Popping takes place as a whole or not at all. -/
theorem perform_pop (index : UInt8) (s : State) :
    (pop index).perform s =
      match s.pop index with
      | .ok t => (.ok (), t)
      | .error fault => (.error fault, s) := by
  rcases h : Register.ofByte index with fault | r
  · simp [perform_pop_of_error h, State.pop, h, Except.map]
  · simp [perform_pop_of_ok h, State.pop, h, Except.map]

/-- A push instruction pushes the content of its register and moves on. -/
theorem execute_push_instruction {σ : Type} [Sink σ] (source : UInt8) :
    (Instruction.push source).execute = ((do
      let v ← readRegister source
      (push v).execute
      change (·.advance 2)) : Action σ Unit) := rfl

/-- A pop instruction pops and moves on. -/
theorem execute_pop_instruction {σ : Type} [Sink σ] (target : UInt8) :
    (Instruction.pop target).execute = ((do
      (pop target).execute
      change (·.advance 2)) : Action σ Unit) := by
  funext ⟨s, k⟩
  rcases h : Register.ofByte target with fault | r
  · simp [Instruction.execute, execute, writeRegister_of_error h]
  · simp [Instruction.execute, execute, writeRegister_of_ok h, Instruction.length,
      Instruction.opcode, Opcode.length]

/-! ## A stack as a list -/

/-- Whether the operation puts a value on the stack. -/
def puts : StackOp → Bool
  | push _ => true
  | pop _ => false

/-- Whether the operation takes a value off the stack. To pop into a register that does not exist
takes none. -/
def takes : StackOp → Bool
  | push _ => false
  | pop index => index.toNat < Register.count

/-- What the operation makes of a stack, which is written from the bottom to the top. -/
def apply (op : StackOp) (vs : List UInt8) : List UInt8 :=
  match op with
  | push v => vs ++ [v]
  | pop _ => if op.takes then vs.dropLast else vs

/-- What operations leave on a stack that was empty before, from the bottom to the top. -/
def held (ops : List StackOp) : List UInt8 := ops.foldl (fun vs op => op.apply vs) []

/-- How many values more are put than taken. -/
def depth (ops : List StackOp) : Nat := ops.countP puts - ops.countP takes

/-- The greatest depth on the way. -/
def peak (ops : List StackOp) : Nat := (ops.inits.map depth).foldr max 0

/-- No more values are taken on the way than are there. -/
def Covered (ops : List StackOp) : Prop :=
  ∀ before, before <+: ops → before.countP takes ≤ before.countP puts

/-- Everything that is put is taken again. -/
structure Balanced (ops : List StackOp) : Prop where
  covered : Covered ops
  even : ops.countP puts = ops.countP takes

/-- The value is the last one that was put and not taken again. -/
def Topmost (ops : List StackOp) (v : UInt8) : Prop :=
  ∃ before between, ops = before ++ push v :: between ∧ Balanced between

variable {ops before between : List StackOp} {op : StackOp}

@[simp] theorem held_nil : held [] = [] := rfl

@[simp] theorem held_concat (ops : List StackOp) (op : StackOp) :
    held (ops ++ [op]) = op.apply (held ops) := by
  simp [held]

@[simp] theorem covered_nil : Covered [] := by
  simp [Covered]

theorem Covered.of_concat (h : Covered (ops ++ [op])) : Covered ops := by
  intro before hb
  exact h before (hb.trans (List.prefix_append ops [op]))

theorem length_held (h : Covered ops) :
    (held ops).length + ops.countP takes = ops.countP puts := by
  induction ops using List.reverseRecOn with
  | nil => rfl
  | append_singleton ops op ih =>
    have covered := ih h.of_concat
    have whole := h _ (List.prefix_refl _)
    rw [List.countP_append, List.countP_append] at whole ⊢
    rw [held_concat]
    cases op with
    | push v =>
      simp [apply, puts, takes]
      omega
    | pop index =>
      by_cases taken : (pop index).takes = true
      · simp [apply, puts, taken] at whole ⊢
        omega
      · simpa [apply, puts, taken] using covered

theorem length_held_eq_depth (h : Covered ops) : (held ops).length = depth ops := by
  have := length_held h
  rw [depth]
  omega

/-- There is something to take whenever something is taken. -/
theorem covered_concat_iff :
    Covered (ops ++ [op]) ↔ Covered ops ∧ (op.takes = true → held ops ≠ []) := by
  constructor
  · intro h
    refine ⟨h.of_concat, ?_⟩
    intro taken empty
    have covered := length_held h.of_concat
    have whole := h _ (List.prefix_refl _)
    have notPut : op.puts = false := by
      cases op with
      | push v => exact absurd taken (by simp [takes])
      | pop index => rfl
    simp [empty] at covered
    simp [List.countP_append, notPut, taken] at whole
    omega
  · rintro ⟨h, nonempty⟩ before hb
    rcases List.prefix_concat_iff.1 hb with rfl | hb
    · have covered := length_held h
      rw [List.countP_append, List.countP_append]
      by_cases taken : op.takes = true
      · have := List.length_pos_iff.2 (nonempty taken)
        simp [taken]
        omega
      · simp [taken]
        omega
    · exact h before hb

/-- Operations that take no more than they put leave alone what was there before. -/
theorem held_append (h : Covered between) :
    held (before ++ between) = held before ++ held between := by
  induction between using List.reverseRecOn with
  | nil => simp
  | append_singleton between op ih =>
    obtain ⟨covered, nonempty⟩ := covered_concat_iff.1 h
    rw [← List.append_assoc, held_concat, held_concat, ih covered]
    cases op with
    | push v => simp [apply]
    | pop index =>
      by_cases taken : (pop index).takes = true
      · simp [apply, taken, List.dropLast_append_of_ne_nil (nonempty taken)]
      · simp [apply, taken]

/-- Each value on the stack was put there by a push, and what came later lies on top of it. -/
theorem exists_push_of_held {below above : List UInt8} (h : Covered ops)
    (hv : held ops = below ++ v :: above) :
    ∃ before between, ops = before ++ push v :: between ∧ Covered between ∧
      held between = above := by
  induction ops using List.reverseRecOn generalizing above with
  | nil => simp at hv
  | append_singleton ops op ih =>
    rw [held_concat] at hv
    obtain ⟨covered, nonempty⟩ := covered_concat_iff.1 h
    -- Either this operation is the push, or it works on what was above the value before.
    have extend {inner : List UInt8} (hi : held ops = below ++ v :: inner)
        (nonempty : op.takes = true → inner ≠ []) (ha : op.apply inner = above) :
        ∃ before between, ops ++ [op] = before ++ push v :: between ∧ Covered between ∧
          held between = above := by
      obtain ⟨before, between, rfl, hb, rfl⟩ := ih covered hi
      exact ⟨before, between ++ [op], by simp, covered_concat_iff.2 ⟨hb, nonempty⟩, by simp [ha]⟩
    cases op with
    | push w =>
      rcases List.eq_nil_or_concat above with rfl | ⟨above, u, rfl⟩
      · obtain ⟨-, hw⟩ := List.append_inj' hv rfl
        obtain rfl : w = v := by simpa using hw
        exact ⟨ops, [], rfl, covered_nil, rfl⟩
      · have hv' : held ops ++ [w] = (below ++ v :: above) ++ [u] := by simpa [apply] using hv
        obtain ⟨inner, hw⟩ := List.append_inj' hv' rfl
        obtain rfl : w = u := by simpa using hw
        exact extend inner (by simp [takes]) (by simp [apply])
    | pop index =>
      by_cases taken : (pop index).takes = true
      · obtain ⟨vs, u, hu⟩ :=
          List.eq_nil_or_concat (held ops) |>.resolve_left (nonempty taken)
        have rest : vs = below ++ v :: above := by simpa [apply, taken, hu] using hv
        have inner : held ops = below ++ v :: (above ++ [u]) := by simp [hu, rest]
        exact extend inner (by simp) (by simp [apply, taken])
      · exact extend (by simpa [apply, taken] using hv) (by simp [taken]) (by simp [apply, taken])

/-- The list gives last what was put last and not taken again. -/
theorem topmost_iff (h : Covered ops) : Topmost ops v ↔ ∃ vs, held ops = vs ++ [v] := by
  constructor
  · rintro ⟨before, between, rfl, balanced⟩
    have nothing : held between = [] := by
      have := length_held balanced.covered
      have := balanced.even
      exact List.length_eq_zero_iff.1 (by omega)
    refine ⟨held before, ?_⟩
    rw [List.append_cons, held_append balanced.covered, held_concat, nothing, List.append_nil,
      apply]
  · rintro ⟨vs, hv⟩
    obtain ⟨before, between, rfl, covered, nothing⟩ := exists_push_of_held h hv
    have := length_held covered
    rw [nothing, List.length_nil] at this
    exact ⟨before, between, rfl, covered, by omega⟩

/-! ## The stack in memory -/

/-- Operations with what a stack needs: the stack pointer is not popped into, no more is taken than
is there, and there is room for what is put. -/
structure Proper (ops : List StackOp) : Prop where
  spares : pop 7 ∉ ops
  covered : Covered ops
  fits : ∀ before, before <+: ops → depth before ≤ Memory.size

/-- The state after operations that are made one after the other, whether or not they succeed. -/
def after (ops : List StackOp) (s : State) : State := ops.foldl (fun s op => (op.perform s).2) s

/-- What has become of a state by operations: how deep the stack is, what is on it, and what is as
it was. Places on the stack are counted from 0 at the bottom. -/
structure Ends (ops : List StackOp) (s t : State) : Prop where
  sp : t.registers.sp = s.registers.sp - UInt8.ofNat (depth ops)
  stack : ∀ i v, (held ops)[i]? = some v →
    t.memory.read (s.registers.sp - UInt8.ofNat (i + 1)) = v
  cells : ∀ a, (∀ i < peak ops, a ≠ s.registers.sp - UInt8.ofNat (i + 1)) →
    t.memory.read a = s.memory.read a
  registers : ∀ r : Register, r ≠ .stackPointer → (∀ index, pop index ∈ ops → r.val ≠ index.toNat) →
    t.registers.read r = s.registers.read r
  pc : t.pc = s.pc
  flags : t.flags = s.flags
  halted : t.halted = s.halted
  cycles : t.cycles = s.cycles

@[simp] theorem after_nil (s : State) : after [] s = s := rfl

@[simp] theorem after_concat (ops : List StackOp) (op : StackOp) (s : State) :
    after (ops ++ [op]) s = (op.perform (after ops s)).2 := by
  simp [after]

theorem Proper.of_prefix (h : Proper ops) (hb : before <+: ops) : Proper before where
  spares hp := h.spares (hb.subset hp)
  covered _ hp := h.covered _ (hp.trans hb)
  fits _ hp := h.fits _ (hp.trans hb)

/-- Operations are pushes, pops into a register and pops into none. -/
theorem eq_push_or_pop (op : StackOp) :
    (∃ v, op = push v) ∨
      (∃ index r, op = pop index ∧ op.takes = true ∧ r.val = index.toNat ∧
        ∀ s, op.perform s = (.ok (), s.popTo r)) ∨
      ∃ index, op = pop index ∧ op.takes = false ∧
        ∀ s, op.perform s = (.error (.invalidRegister index), s) := by
  cases op with
  | push v => exact .inl ⟨v, rfl⟩
  | pop index =>
    by_cases h : index.toNat < Register.count
    · refine .inr (.inl ⟨index, ⟨index.toNat, h⟩, rfl, by simp [takes, h], rfl, ?_⟩)
      exact perform_pop_of_ok (Register.ofByte_of_lt h)
    · refine .inr (.inr ⟨index, rfl, by simp [takes, h], ?_⟩)
      exact perform_pop_of_error (Register.ofByte_of_ge (Nat.not_lt.1 h))

theorem after_keep {α : Type} (f : State → α) (ops : List StackOp) (s : State)
    (h : ∀ op ∈ ops, ∀ t, f (op.perform t).2 = f t) : f (after ops s) = f s := by
  induction ops using List.reverseRecOn with
  | nil => rfl
  | append_singleton ops op ih =>
    rw [after_concat, h op (by simp)]
    exact ih fun o ho => h o (by simp [ho])

theorem depth_le_peak (h : before <+: ops) : depth before ≤ peak ops := by
  have hm : depth before ∈ ops.inits.map depth :=
    List.mem_map_of_mem ((List.mem_inits before ops).2 h)
  rw [peak]
  generalize ops.inits.map depth = depths at hm
  induction depths with
  | nil => exact absurd hm (by simp)
  | cons d depths ih =>
    rcases List.mem_cons.1 hm with rfl | hm
    · exact Nat.le_max_left _ _
    · exact (ih hm).trans (Nat.le_max_right _ _)

end StackOp

theorem sub_ofNat_succ (a : UInt8) (n : Nat) :
    a - UInt8.ofNat (n + 1) = a - UInt8.ofNat n - 1 := by
  rw [UInt8.ofNat_add]
  grind

theorem sub_ofNat_inj {a : UInt8} {i j : Nat} (hi : i < 256) (hj : j < 256)
    (h : a - UInt8.ofNat i = a - UInt8.ofNat j) : i = j := by
  have := congrArg UInt8.toNat h
  simp [UInt8.toNat_sub] at this
  omega

namespace State

/-- The values lie on the stack that begins below an address: the first of them next to it, and the
stack pointer at the last. -/
structure Holds (s : State) (base : UInt8) (vs : List UInt8) : Prop where
  sp : s.registers.sp = base - UInt8.ofNat vs.length
  cells : ∀ i v, vs[i]? = some v → s.memory.read (base - UInt8.ofNat (i + 1)) = v

variable {s : State} {base v : UInt8} {vs : List UInt8} {r : Register}

/-- A pushed value lies on top. It does not hit the bottom unless there are 256 values already. -/
theorem Holds.push (h : s.Holds base vs) (room : vs.length < Memory.size) (v : UInt8) :
    (s.push v).Holds base (vs ++ [v]) where
  sp := by
    rw [sp_push, h.sp, List.length_append, List.length_singleton, sub_ofNat_succ]
  cells := by
    intro i w hw
    rw [memory_push, h.sp, ← sub_ofNat_succ]
    rcases Nat.lt_trichotomy i vs.length with lt | rfl | gt
    · have other : base - UInt8.ofNat (vs.length + 1) ≠ base - UInt8.ofNat (i + 1) := by
        rw [sub_ofNat_succ, sub_ofNat_succ]
        intro e
        exact lt.ne' (sub_ofNat_inj room (lt.trans room) ((UInt8.sub_left_inj _).1 e))
      rw [Memory.read_write_of_ne _ _ other]
      exact h.cells i w (by rwa [List.getElem?_append_left lt] at hw)
    · rw [Memory.read_write_self]
      simpa using hw
    · have above : (vs ++ [v]).length ≤ i := by simpa using Nat.succ_le_of_lt gt
      rw [List.getElem?_eq_none above] at hw
      exact absurd hw (by simp)

/-- What is popped is the value on top. -/
theorem Holds.popTo (h : s.Holds base (vs ++ [v])) (hr : r ≠ .stackPointer) :
    (s.popTo r).registers.read r = v ∧ (s.popTo r).Holds base vs := by
  obtain ⟨popped, moved⟩ := s.read_popTo_of_ne hr
  have top : s.registers.sp = base - UInt8.ofNat (vs.length + 1) := by simpa using h.sp
  refine ⟨?_, ?_, ?_⟩
  · rw [popped, top]
    exact h.cells vs.length v (by simp)
  · rw [moved, top, sub_ofNat_succ, UInt8.sub_add_cancel]
  · intro i w hw
    have inside : i < vs.length := (List.getElem?_eq_some_iff.1 hw).1
    exact h.cells i w (by rwa [List.getElem?_append_left inside])

end State

namespace StackOp

variable {ops before rest : List StackOp} {op : StackOp} {index v : UInt8} {r : Register}

theorem Proper.of_concat (h : Proper (ops ++ [op])) : Proper ops :=
  h.of_prefix (List.prefix_append ops [op])

/-- A pop is not into the stack pointer. -/
theorem Proper.ne_stackPointer (h : Proper ops) (hm : pop index ∈ ops) (hr : r.val = index.toNat) :
    r ≠ .stackPointer := by
  rintro rfl
  have : index = 7 := UInt8.toNat_inj.1 hr.symm
  exact h.spares (this ▸ hm)

/-- There is a value to pop. -/
theorem Proper.exists_top (h : Proper (ops ++ [op])) (taken : op.takes = true) :
    ∃ vs v, held ops = vs ++ [v] := by
  obtain ⟨-, nonempty⟩ := covered_concat_iff.1 h.covered
  rcases List.eq_nil_or_concat (held ops) with empty | ⟨vs, v, top⟩
  · exact absurd empty (nonempty taken)
  · exact ⟨vs, v, by rw [top, List.concat_eq_append]⟩

theorem Proper.room (h : Proper (ops ++ [push v])) : (held ops).length < Memory.size := by
  have fits := h.fits _ (List.prefix_refl _)
  rw [← length_held_eq_depth h.covered, held_concat, apply, List.length_append] at fits
  exact fits

/-- Memory holds what is on the stack. -/
theorem holds_after (s : State) (proper : Proper ops) :
    (after ops s).Holds s.registers.sp (held ops) := by
  induction ops using List.reverseRecOn with
  | nil => exact ⟨by simp, by simp⟩
  | append_singleton ops op ih =>
    have holds := ih proper.of_concat
    rw [after_concat, held_concat]
    rcases op.eq_push_or_pop with ⟨v, rfl⟩ | ⟨index, r, rfl, taken, hr, pops⟩ |
      ⟨index, rfl, not_taken, fails⟩
    · exact holds.push proper.room v
    · obtain ⟨vs, v, top⟩ := proper.exists_top taken
      rw [top] at holds
      rw [pops, apply, if_pos taken, top, List.dropLast_concat]
      exact (holds.popTo (proper.ne_stackPointer (by simp) hr)).2
    · rw [fails]
      simpa [apply, not_taken] using holds

/-- Only cells are written in which values of the stack lie. -/
theorem cells_after (s : State) (proper : Proper ops) {n : Nat}
    (deep : ∀ before, before <+: ops → depth before ≤ n) {a : UInt8}
    (outside : ∀ i < n, a ≠ s.registers.sp - UInt8.ofNat (i + 1)) :
    (after ops s).memory.read a = s.memory.read a := by
  induction ops using List.reverseRecOn with
  | nil => rfl
  | append_singleton ops op ih =>
    have shorter := List.prefix_append ops [op]
    have same := ih proper.of_concat fun _ hb => deep _ (hb.trans shorter)
    rw [after_concat]
    -- Only a push writes, and where it writes is told by the depth before it.
    rcases op.eq_push_or_pop with ⟨v, rfl⟩ | ⟨index, r, rfl, -, -, pops⟩ | ⟨index, rfl, -, fails⟩
    · have below : (held ops).length < n := by
        have := deep _ (List.prefix_refl _)
        rw [← length_held_eq_depth proper.covered, held_concat, apply, List.length_append] at this
        exact this
      rw [perform_push, State.memory_push, (holds_after s proper.of_concat).sp, ← sub_ofNat_succ,
        Memory.read_write_of_ne _ _ (outside _ below).symm]
      exact same
    · rw [pops]
      exact same
    · rw [fails]
      exact same

/-- A register that is not popped into keeps its content. -/
theorem registers_after (s : State) (hr : r ≠ .stackPointer)
    (spared : ∀ index, pop index ∈ ops → r.val ≠ index.toNat) :
    (after ops s).registers.read r = s.registers.read r := by
  refine after_keep (fun t => t.registers.read r) ops s ?_
  intro op hop t
  rcases op.eq_push_or_pop with ⟨v, rfl⟩ | ⟨index, q, rfl, -, hq, pops⟩ | ⟨index, rfl, -, fails⟩
  · exact (Scope.confines_push t v).registers r (by simpa using hr)
  · have other : r ≠ q := by
      rintro rfl
      exact spared index hop hq
    rw [pops]
    exact (Scope.confines_popTo t q).registers r (by simp [other, hr])
  · rw [fails]

/-- The stack is no part of the program counter, the flags, the halt mark or the cycles. -/
theorem ends_after (s : State) (proper : Proper ops) : Ends ops s (after ops s) := by
  have holds := holds_after s proper
  have apart := after_keep (fun t => (t.pc, t.flags, t.halted, t.cycles)) ops s (by
    intro op _ t
    rcases op.eq_push_or_pop with ⟨v, rfl⟩ | ⟨index, q, rfl, -, -, pops⟩ | ⟨index, rfl, -, fails⟩
    · rfl
    · rw [pops]
      rfl
    · rw [fails])
  simp only [Prod.mk.injEq] at apart
  obtain ⟨pc, flags, halted, cycles⟩ := apart
  refine ⟨?_, holds.cells, ?_, ?_, pc, flags, halted, cycles⟩
  · rw [holds.sp, length_held_eq_depth proper.covered]
  · intro a outside
    exact cells_after s proper (fun _ hb => depth_le_peak hb) outside
  · intro r hr spared
    exact registers_after s hr spared

/-- The stack behaves like a list. When operations on any state keep clear of the stack pointer,
never take more than is there and never hold more than 256 values, every pop into a register
succeeds and yields the value that was put last and not taken again, and a pop into no register
fails with the operand it was given and changes nothing. In the end the stack pointer has gone down
by as much as the stack is deep, the values lie below the place where it was, the bottom first, all
addresses modulo 256, and nothing else has changed but the cells in which values have lain and the
registers that were popped into. -/
theorem pops_what_was_pushed (s : State) (proper : Proper ops) :
    (∀ before index rest, ops = before ++ pop index :: rest → ∀ r : Register,
      r.val = index.toNat → ∃ v, (∀ w, Topmost before w ↔ w = v) ∧
        ((pop index).perform (after before s)).1 = .ok () ∧
        ((pop index).perform (after before s)).2.registers.read r = v) ∧
    (∀ before index rest, ops = before ++ pop index :: rest → Register.count ≤ index.toNat →
      (pop index).perform (after before s) = (.error (.invalidRegister index), after before s)) ∧
    Ends ops s (after ops s) := by
  refine ⟨?_, ?_, ends_after s proper⟩
  · rintro before index rest rfl r hr
    have upTo : Proper (before ++ [pop index]) := proper.of_prefix ⟨rest, by simp⟩
    have taken : (pop index).takes = true := by
      simp [takes, ← hr, r.isLt, Register.count]
    obtain ⟨vs, v, top⟩ := upTo.exists_top taken
    have holds := holds_after s upTo.of_concat
    rw [top] at holds
    refine ⟨v, ?_, ?_⟩
    · intro w
      rw [topmost_iff upTo.of_concat.covered, top]
      simp [eq_comm]
    · rw [perform_pop_of_ok (Register.ofByte_eq_ok_iff.2 hr)]
      exact ⟨rfl, (holds.popTo (upTo.ne_stackPointer (by simp) hr)).1⟩
  · intro before index rest _ hi
    exact perform_pop_of_error (Register.ofByte_of_ge hi) _

/-- A stack that begins at address 1 goes on at address 255, and the pop into no register in the
middle is as if it had not been. -/
theorem goesRound_pops :
    let s := { State.start .zero with registers := Registers.start.setSp 1 }
    let before := [push 5, push 6, pop 8]
    let ops := before ++ pop 0 :: [push 7]
    let s' := after ops s
    Proper ops ∧ ((pop 0).perform (after before s)).2.registers.read 0 = 6 ∧
      (pop 8).perform (after [push 5, push 6] s) =
        (.error (.invalidRegister 8), after [push 5, push 6] s) ∧
      s'.registers.sp = 0xFF ∧ s'.memory.read 0 = 5 ∧ s'.memory.read 0xFF = 7 ∧
      s'.memory.read 0xFE = 0 := by
  intro s before ops s'
  have proper : Proper ops := by
    refine ⟨by decide, ?_, ?_⟩
    · simp only [Covered, ← List.mem_inits]
      decide
    · simp only [← List.mem_inits]
      decide
  have last : Topmost before 6 := by
    refine ⟨[push 5], [pop 8], rfl, ?_, rfl⟩
    simp only [Covered, ← List.mem_inits]
    decide
  obtain ⟨pops, fails, ends⟩ := pops_what_was_pushed s proper
  obtain ⟨v, topmost, -, popped⟩ := pops before 0 [push 7] rfl 0 rfl
  have begins : s.registers.sp = 1 := by decide
  have bottom := ends.stack 0 5 (by decide)
  have top := ends.stack 1 7 (by decide)
  rw [begins] at bottom top
  refine ⟨proper, ?_, ?_, ?_, bottom, top, ?_⟩
  · rw [popped, (topmost 6).1 last]
  · exact fails [push 5, push 6] 8 [pop 0, push 7] rfl (by decide)
  · have twoLeft : depth ops = 2 := by decide
    rw [ends.sp, begins, twoLeft]
    rfl
  · refine (ends.cells 0xFE ?_).trans (Memory.read_zero 0xFE)
    have twoDeep : peak ops = 2 := by decide
    intro i hi
    rw [twoDeep] at hi
    rcases (by omega : i = 0 ∨ i = 1) with rfl | rfl <;> decide

end StackOp

end ByteMachine
