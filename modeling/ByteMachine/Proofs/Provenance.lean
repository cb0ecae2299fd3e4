import ByteMachine.Proofs.Steps

/-!
# Where the content of memory comes from

Only a push writes to memory, and it writes one cell. So a cell holds what was last pushed to it,
and what was loaded if nothing was, however the stack pointer got where it is and whether or not the
cell is one of the program.
-/
namespace ByteMachine

/-- No opcode but that of a push changes memory. -/
theorem Opcode.read_of_turns {op : Opcode} {x y : UInt8} {s t : State} (hop : op ≠ .push)
    (h : op.Turns x y s t) (a : UInt8) : t.memory.read a = s.memory.read a := by
  obtain ⟨f, confined, -, -, none⟩ := exists_scope_of_turns h
  exact confined.cells a (by simp [none hop])

namespace Machine

variable {σ : Type} [Sink σ] {m : Machine} {k : σ} {a v : UInt8}

/-- The step of the machine is a push that succeeds. It stores the content that the register has
before the stack pointer moves, at the address below the stack pointer. -/
structure Pushes (m : Machine) (k : σ) (a v : UInt8) : Prop where
  running : m.halted = false
  succeeds : (m.step k).result = .ok ()
  opcode : m.state.code 0 = Opcode.push.byte
  value : ∃ r : Register, r.val = (m.state.code 1).toNat ∧ m.state.registers.read r = v
  address : m.state.registers.sp - 1 = a

theorem read_step_of_pushes (h : m.Pushes k a v) :
    (m.step k).machine.state.memory.read a = v := by
  obtain ⟨q, hq, hv⟩ := h.value
  obtain ⟨r, hr, _, _, stored⟩ := (moves_of_ok h.running h.succeeds).turns h.opcode.symm
  obtain rfl : q = r := Fin.ext (hq.trans hr.symm)
  rw [← h.address, stored, hv]

/-- A step that does not push to a cell leaves it alone, be it that it fails, that it does something
else or that it pushes to another cell. -/
theorem read_step_of_not_pushes (h : ∀ v, ¬m.Pushes k a v) :
    (m.step k).machine.state.memory.read a = m.state.memory.read a := by
  rcases m.moves_or_stays k with moves | stays
  · by_cases hb : m.state.code 0 = Opcode.push.byte
    · obtain ⟨r, hr, confined, _, _⟩ := moves.turns hb.symm
      refine confined.cells a ?_
      intro ha
      have address : m.state.registers.sp - 1 = a := (List.mem_singleton.1 ha).symm
      exact h _ ⟨moves.running, moves.succeeds, hb, ⟨r, hr, rfl⟩, address⟩
    · obtain ⟨op, hop, turns⟩ := (State.dispatched_of_next moves.running moves.next).effect
      refine Opcode.read_of_turns ?_ turns a
      rintro rfl
      exact hb hop.symm
  · rw [stays]

/-! ## Runs of steps -/

/-- After `i` steps, the next one pushes the value to the address. -/
def PushesAt (m : Machine) (k : σ) (i : Nat) (a v : UInt8) : Prop :=
  (m.steps k i).machine.Pushes (m.steps k i).sink a v

/-- Of `n` steps, the one after the first `i` is the last that pushes to the address. -/
structure PushesLast (m : Machine) (k : σ) (n i : Nat) (a v : UInt8) : Prop where
  within : i < n
  pushes : m.PushesAt k i a v
  last : ∀ j, i < j → j < n → ∀ w, ¬m.PushesAt k j a w

/-- A cell keeps its content through steps that do not push to it. -/
theorem read_steps_of_unpushed {i n : Nat} (hin : i ≤ n)
    (h : ∀ j, i ≤ j → j < n → ∀ w, ¬m.PushesAt k j a w) :
    (m.steps k n).machine.state.memory.read a = (m.steps k i).machine.state.memory.read a := by
  refine steps_keep (fun s => s.memory.read a) hin ?_
  intro j hij hj
  exact read_step_of_not_pushes (h j hij hj)

theorem read_steps_of_pushesLast {n i : Nat} (h : m.PushesLast k n i a v) :
    (m.steps k n).machine.state.memory.read a = v := by
  rw [read_steps_of_unpushed h.within h.last, steps_succ]
  exact read_step_of_pushes h.pushes

omit [Sink σ] in
theorem read_load {image : List UInt8} (fits : image.length ≤ Memory.size) (m : Machine) (k : σ)
    (a : UInt8) : (m.load image k).machine.state.memory.read a = image[a.toNat]?.getD 0 := by
  rw [load_of_le fits]
  simp [note]

/-- Every cell tells where its content is from. After an image has been loaded and a number of steps
made, whether or not they have failed or found the machine halted, a cell holds the value that was
last pushed to it, which is the content that the pushed register had before the stack pointer moved.
If nothing was pushed to it, it holds its byte of the image, or zero behind the image. -/
theorem cell_holds_last_pushed {image : List UInt8} (fits : image.length ≤ Memory.size)
    (m₀ : Machine) (k : σ) (n : Nat) (a : UInt8) :
    let m := (m₀.load image k).machine
    (∀ i v, m.PushesLast k n i a v → (m.steps k n).machine.state.memory.read a = v) ∧
      ((∀ i < n, ∀ v, ¬m.PushesAt k i a v) →
        (∀ h : a.toNat < image.length,
          (m.steps k n).machine.state.memory.read a = image[a.toNat]) ∧
        (image.length ≤ a.toNat → (m.steps k n).machine.state.memory.read a = 0)) := by
  intro m
  refine ⟨?_, ?_⟩
  · intro i v last
    exact read_steps_of_pushesLast last
  · intro none
    have loaded : (m.steps k n).machine.state.memory.read a = image[a.toNat]?.getD 0 := by
      rw [read_steps_of_unpushed (Nat.zero_le n) fun j _ hj => none j hj]
      exact read_load fits m₀ k a
    refine ⟨?_, ?_⟩
    · intro h
      rw [loaded, List.getElem?_eq_getElem h, Option.getD_some]
    · intro h
      rw [loaded, List.getElem?_eq_none h, Option.getD_none]

/-- A program that moves the stack down to its own first byte and pushes there, then the stack
pointer behind it. -/
def pushesIntoCode : List UInt8 := [0x82, 7, 1, 0x82, 0, 9, 0x45, 0, 0x45, 7, 0x01]

/-- The machine with the program loaded. -/
def loadedOverItself : Machine :=
  ((Machine.new ⟨false, false, false⟩).load pushesIntoCode LineSink.unlimited).machine

/-- Its first byte is what was pushed, the last cell is the stack pointer from before the push, and
its second byte is as loaded. -/
theorem pushesIntoCode_cells :
    (loadedOverItself.steps LineSink.unlimited 6).machine.state.memory.read 0 = 9 ∧
      (loadedOverItself.steps LineSink.unlimited 6).machine.state.memory.read 0xFF = 0 ∧
      (loadedOverItself.steps LineSink.unlimited 6).machine.state.memory.read 1 = 7 := by
  have fits : pushesIntoCode.length ≤ Memory.size := by decide
  have cells (a : UInt8) :=
    cell_holds_last_pushed fits (.new ⟨false, false, false⟩) LineSink.unlimited 6 a
  have two : ∀ j < 6,
      (loadedOverItself.steps LineSink.unlimited j).machine.state.code 0 = Opcode.push.byte →
        j = 2 ∧ (loadedOverItself.steps LineSink.unlimited j).machine.state.registers.sp - 1 = 0 ∨
        j = 3 ∧
          (loadedOverItself.steps LineSink.unlimited j).machine.state.registers.sp - 1 = 0xFF := by
    decide +kernel
  have pushes {j : Nat} (hj : j < 6) {a w : UInt8}
      (h : loadedOverItself.PushesAt LineSink.unlimited j a w) :
      j = 2 ∧ a = 0 ∨ j = 3 ∧ a = 0xFF := by
    rw [← h.address]
    exact two j hj h.opcode
  have first : loadedOverItself.PushesAt LineSink.unlimited 2 0 9 := by
    refine ⟨?_, ?_, ?_, ⟨0, ?_, ?_⟩, ?_⟩ <;> decide +kernel
  have second : loadedOverItself.PushesAt LineSink.unlimited 3 0xFF 0 := by
    refine ⟨?_, ?_, ?_, ⟨7, ?_, ?_⟩, ?_⟩ <;> decide +kernel
  have first_last : loadedOverItself.PushesLast LineSink.unlimited 6 2 0 9 := by
    refine ⟨by omega, first, ?_⟩
    intro j hij hj w h
    simpa [show j ≠ 2 by omega] using pushes hj h
  have second_last : loadedOverItself.PushesLast LineSink.unlimited 6 3 0xFF 0 := by
    refine ⟨by omega, second, ?_⟩
    intro j hij hj w h
    have := pushes hj h
    omega
  have none : ∀ j < 6, ∀ w, ¬loadedOverItself.PushesAt LineSink.unlimited j 1 w := by
    intro j hj w h
    simpa using pushes hj h
  have pushed_first := (cells 0).1 2 9 first_last
  have pushed_second := (cells 0xFF).1 3 0 second_last
  have as_loaded := ((cells 1).2 none).1 (by decide)
  unfold loadedOverItself
  exact ⟨pushed_first, pushed_second, as_loaded⟩

end Machine

end ByteMachine
