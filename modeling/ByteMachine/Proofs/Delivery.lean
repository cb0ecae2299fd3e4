import ByteMachine.Proofs.Step
import ByteMachine.Proofs.Walk

/-!
# Delivery

A machine does what its state does, as far as its sink goes along: steps and runs are the walk of
the state, with the printed values delivered line by line. If the sink takes all of them, the
machine ends where the walk ends. If it refuses one, the machine stops at the instruction that was
to print it, and the rest of the walk still lies ahead.
-/
namespace ByteMachine

variable {σ : Type} [Sink σ]

/-- Writes values as lines, up to the first that is refused. -/
def deliver : List UInt8 → σ → Except String Unit × σ
  | [], k => (.ok (), k)
  | v :: vs, k =>
    match Sink.write k (printedLine v) with
    | (.ok (), k') => deliver vs k'
    | (.error reason, k') => (.error reason, k')

@[simp] theorem deliver_nil (k : σ) : deliver [] k = (.ok (), k) := rfl

theorem deliver_of_accepted {v : UInt8} {k k' : σ}
    (h : Sink.write k (printedLine v) = (.ok (), k')) (vs : List UInt8) :
    deliver (v :: vs) k = deliver vs k' := by
  simp [deliver, h]

theorem deliver_of_refused {v : UInt8} {k k' : σ} {reason : String}
    (h : Sink.write k (printedLine v) = (.error reason, k')) (vs : List UInt8) :
    deliver (v :: vs) k = (.error reason, k') := by
  simp [deliver, h]

/-- What is refused is one of the values, and those before it have been taken. -/
theorem exists_of_deliver_error {ws : List UInt8} {k k' : σ} {reason : String}
    (h : deliver ws k = (.error reason, k')) :
    ∃ us v vs k₁, ws = us ++ v :: vs ∧ deliver us k = (.ok (), k₁) ∧
      Sink.write k₁ (printedLine v) = (.error reason, k') := by
  induction ws generalizing k with
  | nil => simp at h
  | cons w ws ih =>
    rcases hw : Sink.write k (printedLine w) with ⟨reason' | ⟨⟩, k₁⟩
    · rw [deliver_of_refused hw] at h
      exact ⟨[], w, ws, k, rfl, rfl, hw.trans h⟩
    · rw [deliver_of_accepted hw] at h
      obtain ⟨us, v, vs, k₂, rfl, taken, refused⟩ := ih h
      exact ⟨w :: us, v, vs, k₂, rfl, (deliver_of_accepted hw us).trans taken, refused⟩

namespace Machine

variable {m : Machine} {k k' : σ}

/-- Steps that have succeeded are gone on with by more steps. -/
theorem stepUpTo_add {n : Nat} {m' : Machine} (h : (m.stepUpTo n k).EndsIn (.ok ()) m' k')
    {d : Nat} {result : Except Fault Unit} {m'' : Machine} {k'' : σ}
    (hd : (m'.stepUpTo d k').EndsIn result m'' k'') :
    (m.stepUpTo (n + d) k).EndsIn result m'' k'' := by
  induction n generalizing m k with
  | zero =>
    obtain rfl : m = m' := h.machine
    obtain rfl : k = k' := h.sink
    rwa [Nat.zero_add]
  | succ n ih =>
    by_cases halted : m.halted = true
    · rw [stepUpTo_of_halted halted] at h ⊢
      obtain rfl : m = m' := h.machine
      obtain rfl : k = k' := h.sink
      rwa [stepUpTo_of_halted halted] at hd
    rw [stepUpTo_succ, if_neg halted] at h
    rw [Nat.add_right_comm, stepUpTo_succ, if_neg halted]
    rcases hs : (m.step k).result with fault | ⟨⟩
    · rw [Outcome.andThen_of_error hs] at h
      exact absurd (hs.symm.trans h.result) (by simp)
    · rw [Outcome.andThen_of_ok hs] at h ⊢
      exact (ih ⟨h.result, h.machine, h.sink⟩).logAfter _

/-- A machine whose values are all taken ends where its state walks to. -/
theorem stepUpTo_of_delivered {n : Nat}
    (h : deliver (m.state.walk n).printed k = (.ok (), k')) :
    (m.stepUpTo n k).EndsIn (m.state.walk n).result (m.withState (m.state.walk n).state) k' := by
  induction n generalizing m k with
  | zero =>
    obtain rfl : k = k' := by simpa [Walk.stay] using h
    exact ⟨rfl, rfl, rfl⟩
  | succ n ih =>
    rw [stepUpTo_succ]
    by_cases halted : m.halted = true
    · rw [State.walk_of_halted halted] at h ⊢
      obtain rfl : k = k' := by simpa [Walk.stay] using h
      rw [if_pos halted]
      exact ⟨rfl, rfl, rfl⟩
    rw [if_neg halted]
    have running : m.halted = false := by simpa using halted
    rcases hn : m.state.next with fault | s
    · rw [State.walk_of_next_error running hn] at h ⊢
      obtain rfl : k = k' := by simpa using h
      exact (step_of_next_error running hn k).andThen_of_error _
    rw [State.walk_of_next_ok running hn] at h ⊢
    rcases hp : m.state.printed? with _ | v
    · rw [hp] at h
      exact (step_of_silent running hn hp k).andThen (ih (m := m.withState s) h)
    · rw [hp] at h
      rcases hw : Sink.write k (printedLine v) with ⟨reason | ⟨⟩, k₁⟩
      · simp [deliver_of_refused hw] at h
      · rw [Walk.printed_printAfter, Option.toList_some, List.singleton_append,
          deliver_of_accepted hw] at h
        exact (step_of_accepted running hn hp hw).andThen (ih (m := m.withState s) h)

/-- A sink refuses a value: the state has walked up to the instruction that prints it, and the
values before it have been taken. -/
structure Refuses (k : σ) (s : State) (i : Nat) (us : List UInt8) (v : UInt8) (reason : String)
    (k' : σ) : Prop where
  printed : (s.walk i).printed = us
  going : ¬(s.walk i).Stopped
  value : (s.walk i).state.printed? = some v
  taken : ∃ k₁, deliver us k = (.ok (), k₁) ∧ Sink.write k₁ (printedLine v) = (.error reason, k')

/-- A machine that meets a refusal stops at the instruction that prints the refused value. -/
theorem stepUpTo_of_refused {n : Nat} {reason : String}
    (h : deliver (m.state.walk n).printed k = (.error reason, k')) :
    ∃ i us v vs, (m.state.walk n).printed = us ++ v :: vs ∧
      Refuses k m.state i us v reason k' ∧
      (m.stepUpTo n k).EndsIn (.error (.output reason)) (m.withState (m.state.walk i).state)
        k' := by
  obtain ⟨us, v, vs, k₁, split, taken, refused⟩ := exists_of_deliver_error h
  obtain ⟨i, hi, going, printed, value⟩ := State.exists_walk_of_printed split
  refine ⟨i, us, v, vs, split, ⟨printed, going, value, k₁, taken, refused⟩, ?_⟩
  obtain ⟨running, hr⟩ := Walk.not_stopped_iff.1 going
  have before := stepUpTo_of_delivered (m := m) (n := i) (k := k) (by rwa [printed])
  rw [hr] at before
  have there : ((m.withState (m.state.walk i).state).step k₁).EndsIn (.error (.output reason))
      (m.withState (m.state.walk i).state) k' :=
    step_of_refused running (State.next_of_printed? value) value refused
  obtain ⟨d, rfl⟩ := Nat.exists_eq_add_of_lt hi
  rw [Nat.add_assoc]
  refine stepUpTo_add before ?_
  rw [stepUpTo_succ, if_neg (by simp [running])]
  exact there.andThen_of_error _

/-! ## Runs -/

theorem runToHalt_of_delivered {w : Walk} (h : m.state.Finishes w)
    (hd : deliver w.printed k = (.ok (), k')) :
    ∃ o, m.runToHalt k = some o ∧ o.EndsIn w.result (m.withState w.state) k' := by
  obtain ⟨n, rfl, stopped⟩ := h
  have ends := stepUpTo_of_delivered hd
  refine ⟨_, runToHalt_eq_some_iff.2 ⟨n, rfl, ?_⟩, ends⟩
  rwa [Outcome.Stopped, ends.machine, ends.result]

/-- A run to the halt into a sink that takes everything ends only if the state stops. -/
theorem finishes_of_runToHalt {o : Outcome σ} (hk : ∀ vs, (deliver vs k).1 = .ok ())
    (h : m.runToHalt k = some o) : ∃ w, m.state.Finishes w := by
  obtain ⟨n, rfl, stopped⟩ := runToHalt_eq_some_iff.1 h
  have ends := stepUpTo_of_delivered (m := m) (n := n) (Prod.ext (hk _) rfl)
  refine ⟨_, n, rfl, ?_⟩
  rwa [Outcome.Stopped, ends.machine, ends.result] at stopped

/-- If the sink takes all that a run prints, the run ends where the state does. -/
theorem run_of_delivered {w : Walk} (h : m.state.Finishes w)
    (hd : deliver w.printed k = (.ok (), k')) (hf : (Sink.flush k').1 = .ok ()) :
    ∃ o, m.run k = some o ∧ o.result = w.result ∧ o.machine = m.withState w.state ∧
      (o.sink = k' ∨ o.sink = (Sink.flush k').2) := by
  obtain ⟨o, ho, ends⟩ := runToHalt_of_delivered h hd
  rcases hr : w.result with fault | ⟨⟩
  · obtain ⟨p, hp, ends'⟩ := run_of_runToHalt_error ho (hr ▸ ends)
    exact ⟨p, hp, ends'.result, ends'.machine, .inl ends'.sink⟩
  · obtain ⟨p, hp, ends'⟩ := run_of_runToHalt_ok ho (hr ▸ ends) hf
    exact ⟨p, hp, ends'.result, ends'.machine, .inr ends'.sink⟩

/-- If the sink refuses something, the run ends at the instruction that prints it. -/
theorem run_of_refused {w : Walk} (h : m.state.Finishes w) {reason : String}
    (hd : deliver w.printed k = (.error reason, k')) :
    ∃ i us v vs, w.printed = us ++ v :: vs ∧ Refuses k m.state i us v reason k' ∧
      ∃ o, m.run k = some o ∧
        o.EndsIn (.error (.output reason)) (m.withState (m.state.walk i).state) k' := by
  obtain ⟨n, rfl, -⟩ := h
  obtain ⟨i, us, v, vs, split, refuses, ends⟩ := stepUpTo_of_refused hd
  have ended : m.runToHalt k = some (m.stepUpTo n k) :=
    runToHalt_eq_some_iff.2 ⟨n, rfl, .inr (by simp [ends.result])⟩
  exact ⟨i, us, v, vs, split, refuses, run_of_runToHalt_error ended ends⟩

end Machine

end ByteMachine
