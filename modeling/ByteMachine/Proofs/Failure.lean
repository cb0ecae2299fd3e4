import ByteMachine.Proofs.Calls
import ByteMachine.Proofs.Step

/-!
# Failed steps

A step that fails leaves the state of the machine as it was. If it was not the sink that failed, the
step has not come to the point of writing, and since the state alone decides what comes next, every
later step and every later run fails in the same way, for the same reason and without a trace.
-/
namespace ByteMachine.Machine

variable {σ : Type} [Sink σ] {m : Machine}

/-- A step fails because the state has no next state, or because the sink refuses a line. Either way
the machine stands where it stood. -/
theorem step_error_cases {k : σ} {fault : Fault} (h : (m.step k).result = .error fault) :
    (m.step k).machine = m ∧
      (m.halted = false ∧ m.state.next = .error fault ∧ (m.step k).sink = k ∨
        ∃ reason, fault = .output reason) := by
  by_cases hm : m.halted = true
  · simp [(step_of_halted hm k).result] at h
  have hm : m.halted = false := by simpa using hm
  rcases hn : m.state.next with fault' | s
  · have he := step_of_next_error hm hn k
    have hf : fault' = fault := by simpa [he.result] using h
    exact ⟨he.machine, .inl ⟨hm, by rw [hf], he.sink⟩⟩
  rcases hp : m.state.printed? with _ | v
  · simp [(step_of_silent hm hn hp k).result] at h
  rcases hw : Sink.write k (printedLine v) with ⟨reason | ⟨⟩, k'⟩
  · have he := step_of_refused hm hn hp hw
    exact ⟨he.machine, .inr ⟨reason, by simpa [he.result, eq_comm] using h⟩⟩
  · simp [(step_of_accepted hm hn hp hw).result] at h

/-- A machine that has no next state fails to run. -/
theorem run_of_next_error {fault : Fault} (hm : m.halted = false)
    (hn : m.state.next = .error fault) (k : σ) :
    ∃ o, m.run k = some o ∧ o.EndsIn (.error fault) m k := by
  have he := step_of_next_error hm hn k
  have hs : m.stepUpTo 1 k = (m.step k).andThen (stepUpTo 0) := by
    rw [stepUpTo_succ, if_neg (by simp [hm])]
  have h1 : (m.stepUpTo 1 k).EndsIn (.error fault) m k := by
    rw [hs]
    exact he.andThen_of_error _
  have hr : m.runToHalt k = some (m.stepUpTo 1 k) :=
    runToHalt_eq_some_iff.2 ⟨1, rfl, .inr (by simp [h1.result])⟩
  exact run_of_runToHalt_error hr h1

/-- No call but one that loads gets a machine without a next state to move. -/
theorem perform_of_next_error {fault : Fault} (hm : m.halted = false)
    (hn : m.state.next = .error fault) {c : Call} (hc : c.loads = false) (k : σ) :
    ∃ o, c.perform m k = some o ∧ o.EndsIn (.error fault) m k := by
  cases c with
  | load image => simp [Call.loads] at hc
  | step => exact ⟨_, rfl, step_of_next_error hm hn k⟩
  | run => exact run_of_next_error hm hn k

theorem outcomes_of_next_error {fault : Fault} (hm : m.halted = false)
    (hn : m.state.next = .error fault) (calls : List (Call × σ))
    (hc : ∀ c ∈ calls, c.1.loads = false) :
    ∃ os, outcomes calls m = some os ∧
      List.Forall₂ (fun c o => o.EndsIn (.error fault) m c.2) calls os := by
  refine outcomes_of_staying calls ?_
  intro c hin
  obtain ⟨o, ho, ends⟩ := perform_of_next_error hm hn (hc c hin) c.2
  exact ⟨o, ho, ends.machine, ends⟩

/-- A failed step leaves the machine as it was. If the sink is not to blame, nothing has been
written either, and all later calls that load nothing end like the step, with whatever sinks they
are given. -/
theorem failed_step_is_atomic_and_final {k : σ} {fault : Fault}
    (h : (m.step k).result = .error fault) :
    (m.step k).machine = m ∧
      ((∀ reason, fault ≠ .output reason) →
        (m.step k).sink = k ∧
          ∀ (τ : Type) [Sink τ] (calls : List (Call × τ)), (∀ c ∈ calls, c.1.loads = false) →
            ∃ os, outcomes calls (m.step k).machine = some os ∧
              List.Forall₂ (fun c o => o.EndsIn (.error fault) m c.2) calls os) := by
  obtain ⟨hm, ⟨running, hn, hk⟩ | ⟨reason, hr⟩⟩ := step_error_cases h
  · refine ⟨hm, ?_⟩
    intro notOutput
    refine ⟨hk, ?_⟩
    intro τ _ calls hc
    rw [hm]
    exact outcomes_of_next_error running hn calls hc
  · refine ⟨hm, ?_⟩
    intro notOutput
    exact absurd hr (notOutput reason)

/-- A machine that is about to pop into a register that does not exist. -/
def popsNowhere : Machine := ⟨⟨true, true, false⟩, .start (Memory.zero.overlay [0x46, 9])⟩

/-- The pop fails, and after it a run and a step fail alike, although the sinks take nothing. -/
theorem failed_pop_is_final :
    (popsNowhere.step LineSink.unlimited).result = .error (.invalidRegister 9) ∧
      (popsNowhere.step LineSink.unlimited).machine = popsNowhere ∧
        ∃ os, outcomes [(.run, LineSink.new (some 0) true), (.step, LineSink.new (some 0) true)]
            (popsNowhere.step LineSink.unlimited).machine = some os ∧
          os.map (·.result) = [.error (.invalidRegister 9), .error (.invalidRegister 9)] := by
  have h : (popsNowhere.step LineSink.unlimited).result = .error (.invalidRegister 9) := by
    decide +kernel
  obtain ⟨hm, later⟩ := failed_step_is_atomic_and_final h
  obtain ⟨-, sticky⟩ := later (by simp)
  obtain ⟨os, hos, ends⟩ := sticky LineSink
    [(.run, LineSink.new (some 0) true), (.step, LineSink.new (some 0) true)] (by simp [Call.loads])
  refine ⟨h, hm, os, hos, ?_⟩
  rcases ends with _ | ⟨h1, _ | ⟨h2, _ | _⟩⟩
  simp [h1.result, h2.result]

end ByteMachine.Machine
