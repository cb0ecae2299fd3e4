import ByteMachine.Proofs.Transcript

/-!
# Courses

With a sink that takes everything, what an operation comes to does not depend on the sink. It takes
a course: there are a result, a machine and a log, and there are demands that the sink meets one
after the other, and all of these are the same whatever the sink is; or it does not end with any
sink. Operations that take courses can be put one after the other, so a debugging session takes one
as well (`Debugger.steady_answer` for its lines). Other than a transcript a course has the log, and
it does not say what becomes of a demand that is refused.
-/
namespace ByteMachine

variable {σ : Type} [Sink σ]

/-! ## Demands that are met -/

/-- The sink that demands have been made of, one after the other. -/
def give (demands : List Demand) (k : σ) : σ := demands.foldl (fun k d => (d.meet k).2) k

@[simp] theorem give_nil (k : σ) : give [] k = k := rfl

@[simp] theorem give_cons (d : Demand) (demands : List Demand) (k : σ) :
    give (d :: demands) k = give demands (d.meet k).2 := rfl

theorem give_append (demands demands' : List Demand) (k : σ) :
    give (demands ++ demands') k = give demands' (give demands k) :=
  List.foldl_append

theorem Accepting.give {k : σ} (hk : Accepting k) (demands : List Demand) :
    Accepting (give demands k) := by
  induction demands generalizing k with
  | nil => exact hk
  | cons d demands ih => exact ih (hk.meet d).2

/-! ## Courses -/

/-- What an operation comes to apart from its sink, and the demands that it makes. -/
structure Course where
  result : Except Fault Unit
  machine : Machine
  log : List LogEntry
  demands : List Demand

namespace Course

/-- The outcome with a sink that meets the demands. -/
def outcome (c : Course) (k : σ) : Outcome σ := ⟨c.result, c.machine, give c.demands k, c.log⟩

/-- The course with another one before it that has been logged and has made demands. -/
def behind (c d : Course) : Course :=
  { c with log := d.log ++ c.log, demands := d.demands ++ c.demands }

theorem outcome_behind (c d : Course) (k : σ) :
    (c.behind d).outcome k = (c.outcome (give d.demands k)).logAfter d.log := by
  rw [outcome, behind, give_append]
  rfl

end Course

/-- The operation takes the course on the machine with every sink that takes everything, or it has
no outcome with any of them. -/
def Takes (f : Machine → σ → Option (Outcome σ)) (m : Machine) (c : Option Course) : Prop :=
  ∀ k, Accepting k → f m k = c.map (·.outcome k)

/-- On every machine the operation takes some course. -/
def Steady (f : Machine → σ → Option (Outcome σ)) : Prop := ∀ m, ∃ c, Takes f m c

section Takes

variable {f g : Machine → σ → Option (Outcome σ)} {m : Machine} {c : Course} {d : Option Course}

theorem takes_some_iff {f : Machine → σ → Outcome σ} :
    Takes (fun m k => some (f m k)) m (some c) ↔ ∀ k, Accepting k → f m k = c.outcome k := by
  simp [Takes]

theorem Takes.andThen?_of_ok (hf : Takes f m (some c)) (ok : c.result = .ok ())
    (hg : Takes g c.machine d) :
    Takes (fun m k => (f m k).bind (·.andThen? g)) m (d.map (·.behind c)) := by
  intro k hk
  have later := hg (give c.demands k) (hk.give c.demands)
  simp only [hf k hk, Option.map_some, Option.bind_some, Outcome.andThen?, Course.outcome, ok,
    later, Option.map_map, Function.comp_def]
  cases d with
  | none => rfl
  | some d => exact congrArg some (d.outcome_behind c k).symm

theorem Takes.andThen?_of_none (hf : Takes f m none) :
    Takes (fun m k => (f m k).bind (·.andThen? g)) m none := by
  intro k hk
  simp [hf k hk]

theorem Takes.andThen?_of_error (hf : Takes f m (some c)) {fault : Fault}
    (failed : c.result = .error fault) :
    Takes (fun m k => (f m k).bind (·.andThen? g)) m (some c) := by
  intro k hk
  simp [hf k hk, Outcome.andThen?, Course.outcome, failed]

namespace Steady

theorem andThen? (hf : Steady f) (hg : Steady g) :
    Steady fun m k => (f m k).bind (·.andThen? g) := by
  intro m
  obtain ⟨_ | c, first⟩ := hf m
  · exact ⟨none, first.andThen?_of_none⟩
  · rcases hr : c.result with fault | ⟨⟩
    · exact ⟨some c, first.andThen?_of_error hr⟩
    · obtain ⟨d, second⟩ := hg c.machine
      exact ⟨_, first.andThen?_of_ok hr second⟩

/-- What always ends may follow. -/
theorem andThen {g : Machine → σ → Outcome σ} (hf : Steady f)
    (hg : Steady fun m k => some (g m k)) : Steady fun m k => (f m k).map (·.andThen g) := by
  have h := hf.andThen? hg
  simpa only [Outcome.map_andThen] using h

/-- What always ends may be followed by what always ends. -/
theorem thenSome {f g : Machine → σ → Outcome σ} (hf : Steady fun m k => some (f m k))
    (hg : Steady fun m k => some (g m k)) : Steady fun m k => some ((f m k).andThen g) :=
  hf.andThen hg

end Steady

end Takes

/-! ## Steps and runs -/

namespace Machine

theorem takes_done (m : Machine) :
    Takes (fun m (k : σ) => some (.done m k)) m (some ⟨.ok (), m, [], []⟩) :=
  fun _ _ => rfl

theorem takes_say (text : String) (m : Machine) :
    Takes (fun m (k : σ) => some (m.say (text ++ "\n") k)) m
      (some ⟨.ok (), m, [], [.line text]⟩) := by
  rw [takes_some_iff]
  intro k hk
  have written : Sink.write k (text ++ "\n") = (.ok (), give [.line text] k) :=
    (hk.meet (.line text)).1
  simp only [say, written]
  rfl

theorem takes_flush (m : Machine) :
    Takes (fun m (k : σ) => some (m.flush k)) m (some ⟨.ok (), m, [], [.flush]⟩) := by
  rw [takes_some_iff]
  intro k hk
  have flushed : Sink.flush k = (.ok (), give [.flush] k) := (hk.meet .flush).1
  simp only [flush, flushed]
  rfl

theorem steady_done : Steady fun m (k : σ) => some (.done m k) := fun m => ⟨_, takes_done m⟩

theorem steady_note (e : State → Event) : Steady fun m (k : σ) => some (note (e m.state) m k) :=
  fun m => ⟨some ⟨.ok (), m, m.options.logEvent (e m.state), []⟩, fun _ _ => rfl⟩

theorem steady_say (text : State → String) :
    Steady fun m (k : σ) => some (m.say (text m.state ++ "\n") k) :=
  fun m => ⟨_, takes_say (text m.state) m⟩

theorem steady_flush : Steady fun m (k : σ) => some (m.flush k) := fun m => ⟨_, takes_flush m⟩

theorem steady_noteIfHalted : Steady fun m (k : σ) => some (noteIfHalted m k) := by
  intro m
  by_cases halted : m.halted = true
  · obtain ⟨c, takes⟩ := steady_note (σ := σ) (fun s => .finished s.cycles) m
    exact ⟨c, by simpa only [Takes, noteIfHalted_of_halted halted] using takes⟩
  · have running : m.halted = false := by simpa using halted
    exact ⟨_, by simpa only [Takes, noteIfHalted_of_not_halted running] using takes_done m⟩

theorem steady_execute : Steady fun m (k : σ) => some (m.execute k) := by
  intro m
  by_cases halted : m.halted = true
  · exact ⟨_, by simpa only [Takes, execute_of_halted halted] using takes_done m⟩
  have running : m.halted = false := by simpa using halted
  simp only [Takes, execute_of_not_halted running]
  rcases m.state.next with fault | s
  · exact ⟨some ⟨.error fault, m, m.attemptLog, []⟩, fun _ _ => rfl⟩
  rcases m.state.printed? with _ | v
  · exact ⟨some ⟨.ok (), m.withState s, m.attemptLog, []⟩, fun _ _ => rfl⟩
  · refine ⟨some ⟨.ok (), m.withState s, m.attemptLog, [.line (Numeral.decimal v.toNat)]⟩, ?_⟩
    intro k hk
    have written : Sink.write k (printedLine v) =
        (.ok (), give [.line (Numeral.decimal v.toNat)] k) :=
      (hk.meet (.line (Numeral.decimal v.toNat))).1
    simp only [written]
    rfl

theorem steady_step : Steady fun m (k : σ) => some (m.step k) :=
  steady_execute.thenSome steady_noteIfHalted

theorem steady_stepUpTo (n : Nat) : Steady fun m (k : σ) => some (m.stepUpTo n k) := by
  induction n with
  | zero => exact steady_done
  | succ n ih =>
    intro m
    by_cases halted : m.halted = true
    · exact ⟨_, by simpa only [Takes, stepUpTo_of_halted halted] using takes_done m⟩
    · simpa only [Takes, stepUpTo_succ, if_neg halted] using steady_step.thenSome ih m

/-- Whether a run ends, and after how many steps, is the same with all sinks. -/
theorem steady_runToHalt : Steady (runToHalt (σ := σ)) := by
  intro m
  by_cases stops : ∃ (n : Nat) (k : σ), Accepting k ∧ (m.stepUpTo n k).Stopped
  · obtain ⟨n, k₀, hk₀, stopped⟩ := stops
    obtain ⟨c, steps⟩ := steady_stepUpTo (σ := σ) n m
    refine ⟨c, ?_⟩
    intro k hk
    cases c with
    | none => cases steps k hk
    | some c =>
      have here := Option.some.inj (steps k hk)
      have there := Option.some.inj (steps k₀ hk₀)
      rw [there] at stopped
      exact runToHalt_eq_some_iff.2 ⟨n, here, stopped⟩
  · refine ⟨none, ?_⟩
    intro k hk
    rw [Option.map_none, Option.eq_none_iff_forall_ne_some]
    intro o ran
    obtain ⟨n, rfl, stopped⟩ := runToHalt_eq_some_iff.1 ran
    exact stops ⟨n, k, hk, stopped⟩

theorem steady_run : Steady (run (σ := σ)) :=
  ((steady_note fun _ => .running).andThen? steady_runToHalt).andThen steady_flush

end Machine

/-! ## Requests -/

namespace Debugger

theorem takes_showNext (m : Machine) :
    Takes (fun m (k : σ) => some (showNext m k)) m
      (some ⟨.ok (), m, [], [.line (nextText m.state)]⟩) :=
  fun k hk => Machine.takes_say (nextText m.state) m k hk

theorem steady_showNext : Steady fun m (k : σ) => some (showNext m k) :=
  fun m => ⟨_, takes_showNext m⟩

theorem takes_complain (c : Complaint) (m : Machine) :
    Takes (fun m (k : σ) => some (complain c m k)) m
      (some ⟨.ok (), m, [], [.line (complaintText c)]⟩) :=
  Machine.takes_say (complaintText c) m

theorem steady_complain (c : Complaint) : Steady fun m (k : σ) => some (complain c m k) :=
  fun m => ⟨_, takes_complain c m⟩

theorem steady_sayRows (rows : List (Nat × List UInt8)) :
    Steady fun m (k : σ) => some (sayAll (rows.map rowLine) m k) := by
  induction rows with
  | nil => exact Machine.steady_done
  | cons row rows ih => exact (Machine.steady_say fun _ => rowText row).thenSome ih

theorem steady_step (arguments : List String) :
    Steady fun m (k : σ) => some (step arguments m k) := by
  rcases h : numberOr 1 arguments[0]? with c | count
  · simpa only [step, h] using steady_complain c
  · simpa only [step, h] using (Machine.steady_stepUpTo count).thenSome steady_showNext

theorem steady_dump (arguments : List String) :
    Steady fun m (k : σ) => some (dump arguments m k) := by
  intro m
  rcases h : dumpRange m.state arguments with c | ⟨start, length⟩
  · simpa only [Takes, dump, h] using steady_complain c m
  · simpa only [Takes, dump, h] using steady_sayRows _ m

theorem steady_perform (c : Command) : Steady (perform (σ := σ) c) := by
  obtain ⟨verb, arguments⟩ := c
  cases verb with
  | step => exact steady_step arguments
  | resume => exact Machine.steady_run.andThen steady_showNext
  | registers => exact Machine.steady_say State.report
  | dump => exact steady_dump arguments
  | trace => exact Machine.steady_say fun s => s.snapshot.text
  | quit => exact Machine.steady_done

theorem steady_answer (request : Request) : Steady (answer (σ := σ) request) := by
  cases request with
  | idle => exact Machine.steady_done
  | command c => exact steady_perform c
  | complaint c => exact steady_complain c
  | leave reason =>
    cases reason with
    | none => exact Machine.steady_done
    | some c => exact steady_complain c

/-! ## Sessions -/

/-- Nothing is asked for behind a request that is the last one, fails or does not end. -/
theorem takes_answerAll_of_end {request : Request} {m : Machine} {c : Option Course}
    (h : Takes (answer (σ := σ) request) m c)
    (ends : request.isLast = true ∨ ∀ d ∈ c, d.result ≠ .ok ()) (requests : List Request) :
    Takes (answerAll (σ := σ) (request :: requests)) m c := by
  rcases last : request.isLast
  · rw [answerAll_of_more last]
    cases c with
    | none => exact h.andThen?_of_none
    | some d =>
      rcases hr : d.result with fault | ⟨⟩
      · exact h.andThen?_of_error hr
      · exact absurd hr (ends.resolve_left (by simp [last]) d rfl)
  · rw [answerAll_of_last last]
    exact h

theorem takes_answerAll_of_more {request : Request} {requests : List Request} {m : Machine}
    {c : Course} {d : Option Course} (h : Takes (answer (σ := σ) request) m (some c))
    (more : request.isLast = false) (ok : c.result = .ok ())
    (later : Takes (answerAll (σ := σ) requests) c.machine d) :
    Takes (answerAll (σ := σ) (request :: requests)) m (d.map (·.behind c)) := by
  rw [answerAll_of_more more]
  exact h.andThen?_of_ok ok later

/-- The course of a session on the machine whose lines are answered on the given course. -/
def sessionCourse (m : Machine) (c : Course) : Course where
  result := c.result
  machine := c.machine
  log := m.options.logEvent .debuggerStarted ++ c.log ++
    if c.result.isOk then c.machine.options.logEvent .debuggerLeft else []
  demands := .line (nextText m.state) :: c.demands ++ if c.result.isOk then [.flush] else []

theorem takes_beginSession (m : Machine) :
    Takes (fun m (k : σ) => some (beginSession m k)) m
      (some ⟨.ok (), m, m.options.logEvent .debuggerStarted, [.line (nextText m.state)]⟩) := by
  have noted : Takes (fun m (k : σ) => some (m.note .debuggerStarted k)) m
      (some ⟨.ok (), m, m.options.logEvent .debuggerStarted, []⟩) := fun _ _ => rfl
  simpa [beginSession, Course.behind, Outcome.andThen?_some] using
    noted.andThen?_of_ok rfl (takes_showNext m)

theorem takes_endSession (m : Machine) :
    Takes (fun m (k : σ) => some (endSession m k)) m
      (some ⟨.ok (), m, m.options.logEvent .debuggerLeft, [.flush]⟩) := by
  have noted : Takes (fun m (k : σ) => some (m.note .debuggerLeft k)) m
      (some ⟨.ok (), m, m.options.logEvent .debuggerLeft, []⟩) := fun _ _ => rfl
  simpa [endSession, Course.behind, Outcome.andThen?_some] using
    noted.andThen?_of_ok rfl (Machine.takes_flush m)

theorem takes_session {lines : List ScriptLine} {m : Machine} {c : Option Course}
    (h : Takes (answerAll (σ := σ) (lines.map .ofLine)) m c) :
    Takes (session (σ := σ) lines) m (c.map (sessionCourse m)) := by
  have answered := (takes_beginSession m).andThen?_of_ok rfl h
  have whole : session (σ := σ) lines = fun m k =>
      ((some (beginSession m k)).bind (·.andThen? (answerAll (lines.map .ofLine)))).bind
        (·.andThen? fun m k => some (endSession m k)) := by
    funext m k
    rw [session, Outcome.map_andThen]
    rfl
  rw [whole]
  cases c with
  | none => exact answered.andThen?_of_none
  | some c =>
    rcases hr : c.result with fault | ⟨⟩
    · have ended := answered.andThen?_of_error (g := fun m k => some (endSession m k)) hr
      simpa [sessionCourse, Course.behind, hr, Except.isOk, Except.toBool] using ended
    · have ended := answered.andThen?_of_ok hr (takes_endSession c.machine)
      simpa [sessionCourse, Course.behind, hr, Except.isOk, Except.toBool] using ended

end Debugger

end ByteMachine
