import ByteMachine.Machine.Run

/-!
# One step

What a step of a machine comes to is told by the step of its state: the state has halted, it has no
next state, its next state comes silently, or its next state comes with a line that the sink takes
or refuses. There is one theorem for each of the five cases, and they leave the log out, because
nothing that follows depends on it.
-/
namespace ByteMachine

variable {σ : Type}

/-- How an operation ends, apart from what it logs. -/
structure Outcome.EndsIn (o : Outcome σ) (result : Except Fault Unit) (m : Machine) (k : σ) :
    Prop where
  result : o.result = result
  machine : o.machine = m
  sink : o.sink = k

/-- The operations end alike, apart from what they log. -/
abbrev Outcome.EndsLike (o p : Outcome σ) : Prop := o.EndsIn p.result p.machine p.sink

namespace Outcome.EndsIn

variable {o : Outcome σ} {result result' : Except Fault Unit} {m m' : Machine} {k k' : σ}

theorem logAfter (h : o.EndsIn result m k) (entries : List LogEntry) :
    (o.logAfter entries).EndsIn result m k :=
  ⟨h.result, h.machine, h.sink⟩

/-- A second operation ends the whole if the first one has succeeded. -/
theorem andThen (h : o.EndsIn (.ok ()) m k) {f : Machine → σ → Outcome σ}
    (hf : (f m k).EndsIn result' m' k') : (o.andThen f).EndsIn result' m' k' := by
  rw [andThen_of_ok h.result, h.machine, h.sink]
  exact hf.logAfter _

/-- A failure is final. -/
theorem andThen_of_error {fault : Fault} (h : o.EndsIn (.error fault) m k)
    (f : Machine → σ → Outcome σ) : (o.andThen f).EndsIn (.error fault) m k := by
  rwa [Outcome.andThen_of_error h.result]

end Outcome.EndsIn

/-- How a second operation ends depends on how the first one does. -/
theorem Outcome.EndsLike.andThen {o p : Outcome σ} (h : o.EndsLike p)
    (f : Machine → σ → Outcome σ) : (o.andThen f).EndsLike (p.andThen f) := by
  rcases hr : p.result with fault | ⟨⟩
  · rw [andThen_of_error hr, andThen_of_error (h.result.trans hr)]
    exact h
  · rw [andThen_of_ok hr, andThen_of_ok (h.result.trans hr), h.machine, h.sink]
    exact ⟨rfl, rfl, rfl⟩

namespace Machine

theorem noteIfHalted_endsIn (m : Machine) (k : σ) : (m.noteIfHalted k).EndsIn (.ok ()) m k := by
  rw [noteIfHalted]
  split <;> exact ⟨rfl, rfl, rfl⟩

variable [Sink σ] {m : Machine} {s : State} {v : UInt8} {k k' : σ}

theorem flush_endsIn (h : (Sink.flush k).1 = .ok ()) :
    (m.flush k).EndsIn (.ok ()) m (Sink.flush k).2 := by
  rcases hf : Sink.flush k with ⟨reason | ⟨⟩, k'⟩
  · simp [hf] at h
  · exact ⟨by simp [flush, hf], by simp, by simp [flush, hf]⟩

/-- To say a text is to write it to the sink, and a text that is refused is a failure. -/
theorem say_writes (text : String) (m : Machine) (k : σ) :
    (m.say text k).EndsIn ((Sink.write k text).1.mapError .output) m (Sink.write k text).2 := by
  rcases hw : Sink.write k text with ⟨reason | ⟨⟩, k'⟩
  · refine ⟨?_, by simp, by simp [say, hw]⟩
    rw [say, hw]
    rfl
  · refine ⟨?_, by simp, by simp [say, hw]⟩
    rw [say, hw]
    rfl

theorem say_endsIn {text : String} (h : (Sink.write k text).1 = .ok ()) :
    (m.say text k).EndsIn (.ok ()) m (Sink.write k text).2 := by
  have written := say_writes text m k
  rwa [h] at written

/-! ## The cases of a step -/

theorem step_of_halted (h : m.halted = true) (k : σ) : (m.step k).EndsIn (.ok ()) m k := by
  rw [step, execute_of_halted h, Outcome.done_andThen]
  exact noteIfHalted_endsIn m k

theorem step_of_next_error {fault : Fault} (h : m.halted = false)
    (hn : m.state.next = .error fault) (k : σ) : (m.step k).EndsIn (.error fault) m k := by
  have he : (m.execute k).EndsIn (.error fault) m k := by
    rw [execute_of_not_halted h, hn]
    exact ⟨rfl, rfl, rfl⟩
  exact he.andThen_of_error _

theorem step_of_silent (h : m.halted = false) (hn : m.state.next = .ok s)
    (hp : m.state.printed? = none) (k : σ) : (m.step k).EndsIn (.ok ()) (m.withState s) k := by
  have he : (m.execute k).EndsIn (.ok ()) (m.withState s) k := by
    rw [execute_of_not_halted h, hn, hp]
    exact ⟨rfl, rfl, rfl⟩
  exact he.andThen (noteIfHalted_endsIn _ _)

theorem step_of_accepted (h : m.halted = false) (hn : m.state.next = .ok s)
    (hp : m.state.printed? = some v) (hw : Sink.write k (printedLine v) = (.ok (), k')) :
    (m.step k).EndsIn (.ok ()) (m.withState s) k' := by
  have he : (m.execute k).EndsIn (.ok ()) (m.withState s) k' := by
    rw [execute_of_not_halted h, hn, hp]
    simp only [hw]
    exact ⟨rfl, rfl, rfl⟩
  exact he.andThen (noteIfHalted_endsIn _ _)

/-- A machine whose line is refused stands where it stood. -/
theorem step_of_refused {reason : String} (h : m.halted = false) (hn : m.state.next = .ok s)
    (hp : m.state.printed? = some v) (hw : Sink.write k (printedLine v) = (.error reason, k')) :
    (m.step k).EndsIn (.error (.output reason)) m k' := by
  have he : (m.execute k).EndsIn (.error (.output reason)) m k' := by
    rw [execute_of_not_halted h, hn, hp]
    simp only [hw]
    exact ⟨rfl, rfl, rfl⟩
  exact he.andThen_of_error _

/-- A step that succeeds leads to the next state, and the sink has taken the line if there was one.
-/
theorem step_ok_cases (h : m.halted = false) (hr : (m.step k).result = .ok ()) :
    ∃ s, m.state.next = .ok s ∧ (m.step k).machine = m.withState s ∧
      match m.state.printed? with
      | none => (m.step k).sink = k
      | some v => Sink.write k (printedLine v) = (.ok (), (m.step k).sink) := by
  rcases hn : m.state.next with fault | s
  · simp [(step_of_next_error h hn k).result] at hr
  refine ⟨s, rfl, ?_⟩
  rcases hp : m.state.printed? with _ | v
  · have he := step_of_silent h hn hp k
    exact ⟨he.machine, he.sink⟩
  rcases hw : Sink.write k (printedLine v) with ⟨reason | ⟨⟩, k'⟩
  · simp [(step_of_refused h hn hp hw).result] at hr
  · have he := step_of_accepted h hn hp hw
    exact ⟨he.machine, hw.trans (by rw [he.sink])⟩

/-- A step that prints nothing leaves the sink alone, be it that it fails or that it does something
else. -/
theorem sink_step_of_silent (hp : m.state.printed? = none) (k : σ) : (m.step k).sink = k := by
  by_cases halted : m.halted = true
  · exact (step_of_halted halted k).sink
  have running : m.halted = false := by simpa using halted
  rcases hn : m.state.next with fault | s
  · exact (step_of_next_error running hn k).sink
  · exact (step_of_silent running hn hp k).sink

/-! ## From the halt to the end of a run -/

theorem sink_flush (m : Machine) (k : σ) : (m.flush k).sink = (Sink.flush k).2 := by
  rcases hf : Sink.flush k with ⟨reason | ⟨⟩, k'⟩ <;> simp [flush, hf]

theorem run_of_runToHalt_error {m' : Machine} {fault : Fault} {o : Outcome σ}
    (h : m.runToHalt k = some o) (ends : o.EndsIn (.error fault) m' k') :
    ∃ p, m.run k = some p ∧ p.EndsIn (.error fault) m' k' :=
  ⟨_, by rw [run_eq, h, Option.map_some], (ends.logAfter _).andThen_of_error _⟩

theorem run_of_runToHalt_ok {m' : Machine} {o : Outcome σ} (h : m.runToHalt k = some o)
    (ends : o.EndsIn (.ok ()) m' k') (hf : (Sink.flush k').1 = .ok ()) :
    ∃ p, m.run k = some p ∧ p.EndsIn (.ok ()) m' (Sink.flush k').2 :=
  ⟨_, by rw [run_eq, h, Option.map_some], (ends.logAfter _).andThen (flush_endsIn hf)⟩

/-- A run that ends has made steps that stop. It fails as they do, and if they succeed, all that is
left to do is to flush the sink. -/
theorem exists_stepUpTo_of_run {o : Outcome σ} (ran : m.run k = some o) :
    ∃ n, (m.stepUpTo n k).Stopped ∧ o.machine = (m.stepUpTo n k).machine ∧
      ((∃ fault, (m.stepUpTo n k).result = .error fault ∧ o.result = .error fault ∧
          o.sink = (m.stepUpTo n k).sink) ∨
        (m.stepUpTo n k).result = .ok () ∧ o.sink = (Sink.flush (m.stepUpTo n k).sink).2) := by
  obtain ⟨n, stopped, rfl⟩ := run_eq_some_iff.1 ran
  refine ⟨n, stopped, ?_⟩
  rcases hr : (m.stepUpTo n k).result with fault | ⟨⟩
  · have failed : ((m.stepUpTo n k).logAfter (m.options.logEvent .running)).result =
        .error fault := hr
    rw [Outcome.andThen_of_error failed]
    exact ⟨rfl, .inl ⟨fault, rfl, failed, rfl⟩⟩
  · have made : ((m.stepUpTo n k).logAfter (m.options.logEvent .running)).result = .ok () := hr
    rw [Outcome.andThen_of_ok made]
    exact ⟨machine_flush _ _, .inr ⟨rfl, sink_flush _ _⟩⟩

end Machine

end ByteMachine
