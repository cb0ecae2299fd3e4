import ByteMachine.Machine

/-!
# Runs

A machine may step a given number of times (`Machine.stepUpTo`) or until it halts (`Machine.run`).
A run goes round its loop as often as it takes and may never end, in which case it has no outcome.
That it has one is told by plain steps: a run to the halt ends with an outcome exactly when some
number of steps ends with that outcome and stops there (`Machine.runToHalt_eq_some_iff`).
-/
namespace ByteMachine.Machine

variable {σ : Type} [Sink σ]

/-- Steps up to `n` times, stopping when the machine stands halted or a step fails, behind the log
of what went before. -/
def stepFrom (earlier : Array LogEntry) : Nat → Machine → σ → Outcome σ
  | 0, m, k => ⟨.ok (), m, k, earlier.toList⟩
  | n + 1, m, k =>
    if m.halted then ⟨.ok (), m, k, earlier.toList⟩
    else
      match m.step k with
      | ⟨.ok (), m', k', log⟩ => stepFrom (earlier ++ log) n m' k'
      | ⟨.error fault, m', k', log⟩ => ⟨.error fault, m', k', (earlier ++ log).toList⟩

/-- Steps up to `n` times, stopping when the machine stands halted or a step fails. -/
def stepUpTo (n : Nat) (m : Machine) (k : σ) : Outcome σ := stepFrom #[] n m k

theorem stepFrom_eq_logAfter (earlier : Array LogEntry) (n : Nat) (m : Machine) (k : σ) :
    stepFrom earlier n m k = (stepUpTo n m k).logAfter earlier.toList := by
  induction n generalizing earlier m k with
  | zero => simp [stepUpTo, stepFrom, Outcome.logAfter]
  | succ n ih =>
    simp only [stepUpTo, stepFrom]
    by_cases h : m.halted = true
    · simp [h, Outcome.logAfter]
    · rcases m.step k with ⟨fault | ⟨⟩, m', k', log⟩
      · simp [h, Outcome.logAfter]
      · simp [h, ih, Outcome.logAfter]

@[simp] theorem stepUpTo_zero (m : Machine) (k : σ) : stepUpTo 0 m k = .done m k := rfl

/-- A budget of steps is spent one step at a time. -/
theorem stepUpTo_succ (n : Nat) (m : Machine) (k : σ) :
    stepUpTo (n + 1) m k =
      if m.halted then .done m k else (m.step k).andThen (stepUpTo n) := by
  by_cases h : m.halted = true
  · simp [stepUpTo, stepFrom, h, Outcome.done]
  · rw [stepUpTo, stepFrom]
    rcases hs : m.step k with ⟨fault | ⟨⟩, m', k', log⟩
    · simp [h, Outcome.andThen]
    · simp [h, stepFrom_eq_logAfter, Outcome.andThen]

theorem stepUpTo_of_halted {m : Machine} (h : m.halted = true) (n : Nat) (k : σ) :
    stepUpTo n m k = .done m k := by
  cases n <;> simp [stepUpTo_succ, h]

/-- Steps until the machine stands halted or a step fails, behind the log of what went before. -/
def runFrom (earlier : Array LogEntry) (m : Machine) (k : σ) : Option (Outcome σ) :=
  if m.halted then some ⟨.ok (), m, k, earlier.toList⟩
  else
    match m.step k with
    | ⟨.ok (), m', k', log⟩ => m' |>.runFrom (earlier ++ log) k'
    | ⟨.error fault, m', k', log⟩ => some ⟨.error fault, m', k', (earlier ++ log).toList⟩
partial_fixpoint

/-- Steps until the machine stands halted or a step fails; there is no outcome if that never
happens. -/
def runToHalt (m : Machine) (k : σ) : Option (Outcome σ) := runFrom #[] m k

/-- Runs the machine and flushes the sink once it has halted; there is no outcome if the run never
ends. -/
def run (m : Machine) (k : σ) : Option (Outcome σ) :=
  ((note .running m k).andThen? runToHalt).map (·.andThen flush)

theorem run_eq (m : Machine) (k : σ) :
    m.run k =
      (m.runToHalt k).map fun o => (o.logAfter (m.options.logEvent .running)).andThen flush := by
  simp [run, note, Outcome.andThen?, Option.map_map, Function.comp_def]

/-- A run that ends does so after some number of steps. -/
theorem exists_stepFrom_of_runFrom {earlier : Array LogEntry} {m : Machine} {k : σ} {o : Outcome σ}
    (h : runFrom earlier m k = some o) :
    ∃ n, stepFrom earlier n m k = o ∧ o.Stopped := by
  refine runFrom.partial_correctness
    (fun earlier m k o => ∃ n, stepFrom earlier n m k = o ∧ o.Stopped) ?_ earlier m k o h
  intro rest ih earlier m k o h
  by_cases hm : m.halted = true
  · simp only [hm, if_true, Option.some.injEq] at h
    subst h
    exact ⟨0, rfl, .inl hm⟩
  · rcases hs : m.step k with ⟨fault | ⟨⟩, m', k', log⟩
    · simp only [hm, hs, Bool.false_eq_true, if_false, Option.some.injEq] at h
      subst h
      exact ⟨1, by simp [stepFrom, hm, hs], .inr (by simp)⟩
    · simp only [hm, hs, Bool.false_eq_true, if_false] at h
      obtain ⟨n, hn, stopped⟩ := ih _ _ _ _ h
      exact ⟨n + 1, by simp [stepFrom, hm, hs, hn], stopped⟩

/-- Steps that stop are a run that ends. -/
theorem runFrom_of_stopped (n : Nat) (earlier : Array LogEntry) (m : Machine) (k : σ)
    (h : (stepFrom earlier n m k).Stopped) :
    runFrom earlier m k = some (stepFrom earlier n m k) := by
  induction n generalizing earlier m k with
  | zero =>
    have hm : m.halted = true := h.resolve_right (by simp [stepFrom])
    rw [runFrom, if_pos hm, stepFrom]
  | succ n ih =>
    rw [runFrom]
    by_cases hm : m.halted = true
    · simp [stepFrom, hm]
    · rcases hs : m.step k with ⟨fault | ⟨⟩, m', k', log⟩
      · simp [stepFrom, hm, hs]
      · simp only [stepFrom, hm, hs, Bool.false_eq_true, if_false] at h ⊢
        exact ih _ _ _ h

theorem runToHalt_eq_some_iff {m : Machine} {k : σ} {o : Outcome σ} :
    m.runToHalt k = some o ↔ ∃ n, m.stepUpTo n k = o ∧ o.Stopped := by
  constructor
  · exact exists_stepFrom_of_runFrom
  · rintro ⟨n, rfl, stopped⟩
    exact runFrom_of_stopped n #[] m k stopped

/-- A run that ends is steps that stop, behind the entry for its beginning, and a flush if they have
succeeded. -/
theorem run_eq_some_iff {m : Machine} {k : σ} {o : Outcome σ} :
    m.run k = some o ↔
      ∃ n, (m.stepUpTo n k).Stopped ∧
        ((m.stepUpTo n k).logAfter (m.options.logEvent .running)).andThen flush = o := by
  rw [run_eq, Option.map_eq_some_iff]
  constructor
  · rintro ⟨p, hp, rfl⟩
    obtain ⟨n, rfl, stopped⟩ := runToHalt_eq_some_iff.1 hp
    exact ⟨n, stopped, rfl⟩
  · rintro ⟨n, stopped, rfl⟩
    exact ⟨_, runToHalt_eq_some_iff.2 ⟨n, rfl, stopped⟩, rfl⟩

end ByteMachine.Machine
