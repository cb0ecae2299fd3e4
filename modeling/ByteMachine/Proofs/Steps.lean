import ByteMachine.Proofs.Dispatch
import ByteMachine.Proofs.Failure

/-!
# One step after the other

Steps may be asked of a machine any number of times. Nothing keeps it from being asked again when a
step has failed or the machine has halted, so `Machine.steps` makes every one of them, and a machine
goes on (`Machine.GoesOn`) as long as none of them has failed and it has not halted. Whatever is
asked, a step either takes the machine to the next state or leaves it where it is.
-/
namespace ByteMachine.Machine

variable {σ : Type} [Sink σ] {m : Machine} {k : σ} {n : Nat}

/-- What the last of `n` steps comes to that are made one after the other, whether or not they
succeed. Before the first of them nothing has happened. -/
def steps (m : Machine) (k : σ) : Nat → Outcome σ
  | 0 => .done m k
  | n + 1 => (steps m k n).machine.step (steps m k n).sink

@[simp] theorem steps_zero (m : Machine) (k : σ) : m.steps k 0 = .done m k := rfl

theorem steps_succ (m : Machine) (k : σ) (n : Nat) :
    m.steps k (n + 1) = (m.steps k n).machine.step (m.steps k n).sink := rfl

/-- The machine goes on for `n` steps: none of them fails, and it does not halt. -/
structure GoesOn (m : Machine) (k : σ) (n : Nat) : Prop where
  succeeded : ∀ i ≤ n, (m.steps k i).result = .ok ()
  running : ∀ i ≤ n, (m.steps k i).machine.halted = false

theorem GoesOn.mono {i : Nat} (h : m.GoesOn k n) (hi : i ≤ n) : m.GoesOn k i where
  succeeded := by
    intro j hj
    exact h.succeeded j (by omega)
  running := by
    intro j hj
    exact h.running j (by omega)

/-- A step that is made leads to the next state. -/
structure Moves (m : Machine) (k : σ) : Prop where
  running : m.halted = false
  succeeds : (m.step k).result = .ok ()
  next : m.state.next = .ok (m.step k).machine.state

theorem moves_of_ok (h : m.halted = false) (hr : (m.step k).result = .ok ()) : m.Moves k := by
  obtain ⟨s, hn, hm, -⟩ := step_ok_cases h hr
  refine ⟨h, hr, ?_⟩
  rw [hn, hm, state_withState]

/-- A step that is made does what its opcode is for. -/
theorem Moves.turns (h : m.Moves k) {op : Opcode} (hop : op.byte = m.state.code 0) :
    op.Turns (m.state.code 1) (m.state.code 2) m.state (m.step k).machine.state := by
  obtain ⟨op', hop', turns⟩ := (State.dispatched_of_next h.running h.next).effect
  rwa [Opcode.byte_injective (hop'.trans hop.symm)] at turns

/-- A step leads to the next state or nowhere. -/
theorem moves_or_stays (m : Machine) (k : σ) : m.Moves k ∨ (m.step k).machine = m := by
  by_cases halted : m.halted = true
  · exact .inr (step_of_halted halted k).machine
  have running : m.halted = false := by simpa using halted
  rcases hr : (m.step k).result with fault | ⟨⟩
  · exact .inr (step_error_cases hr).1
  · exact .inl (moves_of_ok running hr)

/-- What each of some steps keeps is kept by all of them. -/
theorem steps_keep {α : Type} (f : State → α) {i : Nat} (hin : i ≤ n)
    (h : ∀ j, i ≤ j → j < n →
      f (m.steps k (j + 1)).machine.state = f (m.steps k j).machine.state) :
    f (m.steps k n).machine.state = f (m.steps k i).machine.state := by
  obtain ⟨d, rfl⟩ := Nat.exists_eq_add_of_le hin
  induction d with
  | zero => rfl
  | succ d ih =>
    have before : ∀ j, i ≤ j → j < i + d →
        f (m.steps k (j + 1)).machine.state = f (m.steps k j).machine.state := by
      intro j hij hj
      exact h j hij (by omega)
    exact (h (i + d) (by omega) (by omega)).trans (ih (by omega) before)

end ByteMachine.Machine
