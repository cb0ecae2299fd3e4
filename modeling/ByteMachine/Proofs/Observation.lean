import ByteMachine.Debugger.Session
import ByteMachine.Proofs.Calls

/-!
# What is logged

The options are asked for nothing but the log. Whatever is done with a machine, it comes to the same
under all of them: the results, the states and what is written. What is logged under some options is
what these admit of the log that there is when everything is logged (`Observed`), and to do one
observed thing after the other is observed as well, whether it ends well, fails or never ends.
-/
namespace ByteMachine

variable {σ : Type}

namespace Options

/-- Whether entries of this kind are logged. -/
def admits (options : Options) (e : LogEntry) : Bool :=
  if e.isTrace then options.trace else options.verbose

/-- The options under which everything is logged. -/
def loud : Options := ⟨true, true, true⟩

theorem admits_verbose (debug : Bool) : admits ⟨true, false, debug⟩ = fun e => !e.isTrace := by
  funext e
  cases h : e.isTrace <;> simp [admits, h]

theorem admits_trace (debug : Bool) : admits ⟨false, true, debug⟩ = fun e => e.isTrace := by
  funext e
  cases h : e.isTrace <;> simp [admits, h]

theorem filter_admits_all (debug : Bool) (log : List LogEntry) :
    log.filter (admits ⟨true, true, debug⟩) = log := by
  simp [admits]

@[simp] theorem filter_logEvent_loud (p : Options) (e : Event) :
    (loud.logEvent e).filter p.admits = p.logEvent e := by
  cases h : p.verbose <;> simp [loud, logEvent, admits, LogEntry.isTrace, h]

@[simp] theorem filter_logTrace_loud (p : Options) (t : Snapshot) :
    (loud.logTrace t).filter p.admits = p.logTrace t := by
  cases h : p.trace <;> simp [loud, logTrace, admits, LogEntry.isTrace, h]

end Options

namespace Outcome

/-- The outcome as it is under other options: the log is what they admit. -/
def under (options : Options) (o : Outcome σ) : Outcome σ :=
  { o with machine := ⟨options, o.machine.state⟩, log := o.log.filter options.admits }

/-- What an operation comes to, apart from what it logs. -/
def effects (o : Outcome σ) : Except Fault Unit × State × σ := (o.result, o.machine.state, o.sink)

@[simp] theorem effects_under (p : Options) (o : Outcome σ) : (o.under p).effects = o.effects := rfl

@[simp] theorem log_under (p : Options) (o : Outcome σ) :
    (o.under p).log = o.log.filter p.admits := rfl

theorem under_logAfter (p : Options) (o : Outcome σ) (entries : List LogEntry) :
    (o.logAfter entries).under p = (o.under p).logAfter (entries.filter p.admits) := by
  simp [under, logAfter]

theorem stopped_under_iff (p : Options) (o : Outcome σ) : (o.under p).Stopped ↔ o.Stopped := Iff.rfl

end Outcome

/-- The operation does the same under all options and logs what they admit. -/
def Observed (f : Machine → σ → Option (Outcome σ)) : Prop :=
  ∀ p s k, f ⟨p, s⟩ k = (f ⟨.loud, s⟩ k).map (·.under p)

theorem observed_some_iff {f : Machine → σ → Outcome σ} :
    Observed (fun m k => some (f m k)) ↔ ∀ p s k, f ⟨p, s⟩ k = (f ⟨.loud, s⟩ k).under p := by
  simp [Observed]

namespace Observed

variable {f g : Machine → σ → Option (Outcome σ)}

/-- An operation leaves the options as they are. -/
theorem options_eq (h : Observed f) {p : Options} {s : State} {k : σ} {o : Outcome σ}
    (ho : f ⟨p, s⟩ k = some o) : o.machine.options = p := by
  rw [h p s k] at ho
  obtain ⟨o', -, rfl⟩ := Option.map_eq_some_iff.1 ho
  rfl

/-- What is done one after the other logs one after the other. -/
theorem andThen? (hf : Observed f) (hg : Observed g) :
    Observed fun m k => (f m k).bind (·.andThen? g) := by
  intro p s k
  simp only [hf p s k]
  rcases ho : f ⟨.loud, s⟩ k with _ | ⟨result, ⟨q, t⟩, k', log⟩
  · rfl
  -- The second operation begins under the options of the first, so it is observed from there.
  obtain rfl : q = .loud := hf.options_eq ho
  rcases result with fault | ⟨⟩
  · rfl
  · have both : ((g ⟨.loud, t⟩ k').map (·.logAfter log)).map (·.under p) =
        ((g ⟨.loud, t⟩ k').map (·.under p)).map (·.logAfter (log.filter p.admits)) := by
      simp only [Option.map_map, Function.comp_def, Outcome.under_logAfter]
    rw [← hg p t k'] at both
    exact both.symm

/-- What always ends may follow. -/
theorem andThen {g : Machine → σ → Outcome σ} (hf : Observed f)
    (hg : Observed fun m k => some (g m k)) : Observed fun m k => (f m k).map (·.andThen g) := by
  have h := hf.andThen? hg
  simpa only [Outcome.map_andThen] using h

/-- What always ends may be followed by what always ends. -/
theorem thenSome {f g : Machine → σ → Outcome σ} (hf : Observed fun m k => some (f m k))
    (hg : Observed fun m k => some (g m k)) : Observed fun m k => some ((f m k).andThen g) :=
  hf.andThen hg

end Observed

namespace Machine

theorem observed_done : Observed fun m (k : σ) => some (.done m k) := by
  rw [observed_some_iff]
  intro p s k
  rfl

theorem observed_note (e : State → Event) :
    Observed fun m (k : σ) => some (note (e m.state) m k) := by
  rw [observed_some_iff]
  intro p s k
  simp [note, Outcome.under]

/-- An image that is refused is not logged under any options. -/
theorem observed_load (image : List UInt8) : Observed fun m (k : σ) => some (load image m k) := by
  rw [observed_some_iff]
  intro p s k
  by_cases fits : image.length ≤ Memory.size
  · rw [load_of_le fits, load_of_le fits]
    exact observed_some_iff.1 (observed_note fun _ => .loaded image.length) p _ k
  · rw [load_of_gt (Nat.not_le.1 fits), load_of_gt (Nat.not_le.1 fits)]
    rfl

theorem observed_noteIfHalted : Observed fun m (k : σ) => some (noteIfHalted m k) := by
  rw [observed_some_iff]
  intro p s k
  by_cases halted : s.halted = true
  · rw [noteIfHalted_of_halted (m := ⟨p, s⟩) halted,
      noteIfHalted_of_halted (m := ⟨.loud, s⟩) halted]
    exact observed_some_iff.1 (observed_note fun s => .finished s.cycles) p s k
  · have running : s.halted = false := by simpa using halted
    rw [noteIfHalted_of_not_halted (m := ⟨p, s⟩) running,
      noteIfHalted_of_not_halted (m := ⟨.loud, s⟩) running]
    rfl

theorem attemptLog_eq_filter (p : Options) (s : State) :
    attemptLog ⟨p, s⟩ = (attemptLog ⟨.loud, s⟩).filter p.admits := by
  rcases h : s.fetch with fault | i <;> simp [attemptLog, h]

variable [Sink σ]

theorem observed_say (text : State → String) :
    Observed fun m (k : σ) => some (m.say (text m.state) k) := by
  rw [observed_some_iff]
  intro p s k
  rcases h : Sink.write k (text s) with ⟨reason | ⟨⟩, k'⟩ <;> simp [say, h, Outcome.under]

theorem observed_flush : Observed fun m (k : σ) => some (m.flush k) := by
  rw [observed_some_iff]
  intro p s k
  rcases h : Sink.flush k with ⟨reason | ⟨⟩, k'⟩ <;> simp [flush, h, Outcome.under]

/-- What is logged of an instruction is logged before it acts, so it does not matter how it ends. -/
theorem observed_execute : Observed fun m (k : σ) => some (m.execute k) := by
  rw [observed_some_iff]
  intro p s k
  by_cases halted : s.halted = true
  · rw [execute_of_halted (m := ⟨p, s⟩) halted, execute_of_halted (m := ⟨.loud, s⟩) halted]
    rfl
  · rcases hf : s.fetch with fault | i
    · simp [execute, Machine.halted, halted, hf, Outcome.under, attemptLog_eq_filter p]
    · rcases he : i.execute (s, k) with ⟨⟨⟩, s', k'⟩ | ⟨fault, s', k'⟩ <;>
        simp [execute, Machine.halted, halted, hf, he, Outcome.under, withState,
          attemptLog_eq_filter p]

theorem observed_step : Observed fun m (k : σ) => some (m.step k) :=
  observed_execute.thenSome observed_noteIfHalted

theorem observed_stepUpTo (n : Nat) : Observed fun m (k : σ) => some (m.stepUpTo n k) := by
  induction n with
  | zero => exact observed_done
  | succ n ih =>
    rw [observed_some_iff]
    intro p s k
    by_cases halted : s.halted = true
    · rw [stepUpTo_of_halted (m := ⟨p, s⟩) halted, stepUpTo_of_halted (m := ⟨.loud, s⟩) halted]
      rfl
    · rw [stepUpTo_succ, stepUpTo_succ, Machine.halted, Machine.halted, if_neg halted,
        if_neg halted]
      exact observed_some_iff.1 (observed_step.thenSome ih) p s k

/-- Whether a run ends, and after how many steps, is the same under all options. -/
theorem observed_runToHalt : Observed (runToHalt (σ := σ)) := by
  intro p s k
  -- The loop has no induction of its own; it ends where some number of steps stops.
  have steps (n : Nat) := observed_some_iff.1 (observed_stepUpTo n) p s k
  refine Option.ext fun o => ?_
  rw [runToHalt_eq_some_iff, Option.map_eq_some_iff]
  constructor
  · rintro ⟨n, rfl, stopped⟩
    refine ⟨stepUpTo n ⟨.loud, s⟩ k, runToHalt_eq_some_iff.2 ⟨n, rfl, ?_⟩, (steps n).symm⟩
    rwa [steps n, Outcome.stopped_under_iff] at stopped
  · rintro ⟨o', ho, rfl⟩
    obtain ⟨n, rfl, stopped⟩ := runToHalt_eq_some_iff.1 ho
    exact ⟨n, steps n, stopped⟩

/-- A run as far as its first `n` steps. -/
def runUpTo (n : Nat) (m : Machine) (k : σ) : Outcome σ := (note .running m k).andThen (stepUpTo n)

theorem observed_runUpTo (n : Nat) : Observed fun m (k : σ) => some (m.runUpTo n k) :=
  (observed_note fun _ => .running).thenSome (observed_stepUpTo n)

theorem observed_run : Observed (run (σ := σ)) :=
  ((observed_note fun _ => .running).andThen? observed_runToHalt).andThen observed_flush

end Machine

theorem Call.observed_perform [Sink σ] (c : Call) : Observed (c.perform (σ := σ)) := by
  cases c with
  | load image => exact Machine.observed_load image
  | step => exact Machine.observed_step
  | run => exact Machine.observed_run

/-! ## Sessions -/

namespace Debugger

variable [Sink σ]

theorem observed_showNext : Observed fun m (k : σ) => some (showNext m k) :=
  Machine.observed_say fun s => nextText s ++ "\n"

theorem observed_complain (c : Complaint) : Observed fun m (k : σ) => some (complain c m k) :=
  Machine.observed_say fun _ => complaintLine c

theorem observed_sayAll (texts : List String) :
    Observed fun m (k : σ) => some (sayAll texts m k) := by
  induction texts with
  | nil => exact Machine.observed_done
  | cons text texts ih => exact (Machine.observed_say fun _ => text).thenSome ih

theorem observed_step (arguments : List String) :
    Observed fun m (k : σ) => some (step arguments m k) := by
  rcases h : numberOr 1 arguments[0]? with c | count
  · simpa only [step, h] using observed_complain c
  · simpa only [step, h] using (Machine.observed_stepUpTo count).thenSome observed_showNext

theorem observed_dump (arguments : List String) :
    Observed fun m (k : σ) => some (dump arguments m k) := by
  rw [observed_some_iff]
  intro p s k
  rcases h : dumpRange s arguments with c | ⟨start, length⟩
  · simpa only [dump, h] using observed_some_iff.1 (observed_complain c) p s k
  · simpa only [dump, h] using observed_some_iff.1 (observed_sayAll _) p s k

theorem observed_perform (c : Command) : Observed (perform (σ := σ) c) := by
  obtain ⟨verb, arguments⟩ := c
  cases verb with
  | step => exact observed_step arguments
  | resume => exact Machine.observed_run.andThen observed_showNext
  | registers => exact Machine.observed_say fun s => s.report ++ "\n"
  | dump => exact observed_dump arguments
  | trace => exact Machine.observed_say fun s => s.snapshot.text ++ "\n"
  | quit => exact Machine.observed_done

theorem observed_answer (request : Request) : Observed (answer (σ := σ) request) := by
  cases request with
  | idle => exact Machine.observed_done
  | command c => exact observed_perform c
  | complaint c => exact observed_complain c
  | leave reason =>
    cases reason with
    | none => exact Machine.observed_done
    | some c => exact observed_complain c

theorem observed_answerAll (requests : List Request) :
    Observed (answerAll (σ := σ) requests) := by
  induction requests with
  | nil => exact Machine.observed_done
  | cons request requests ih =>
    rcases last : request.isLast
    · rw [answerAll_of_more last]
      exact (observed_answer request).andThen? ih
    · rw [answerAll_of_last last]
      exact observed_answer request

theorem observed_beginSession : Observed fun m (k : σ) => some (beginSession m k) :=
  (Machine.observed_note fun _ => .debuggerStarted).thenSome observed_showNext

theorem observed_endSession : Observed fun m (k : σ) => some (endSession m k) :=
  (Machine.observed_note fun _ => .debuggerLeft).thenSome Machine.observed_flush

theorem observed_session (lines : List ScriptLine) : Observed (session (σ := σ) lines) :=
  (observed_beginSession.andThen? (observed_answerAll _)).andThen observed_endSession

/-- A session that has come to the first `n` steps of a run after some lines. -/
def sessionUpTo (lines : List ScriptLine) (n : Nat) (m : Machine) (k : σ) : Option (Outcome σ) :=
  ((beginSession m k).andThen? (answerAll (lines.map .ofLine))).map (·.andThen (Machine.runUpTo n))

theorem observed_sessionUpTo (lines : List ScriptLine) (n : Nat) :
    Observed (sessionUpTo (σ := σ) lines n) :=
  (observed_beginSession.andThen? (observed_answerAll _)).andThen (Machine.observed_runUpTo n)

end Debugger

/-! ## Whatever is done with a machine -/

/-- Something that is done with a machine: a call, or a debugging session. What never ends is seen
as far as it has come. -/
inductive Use where
  | call (c : Call)
  | session (lines : List Debugger.ScriptLine)
  | runUpTo (n : Nat)
  | sessionUpTo (lines : List Debugger.ScriptLine) (n : Nat)
  deriving DecidableEq

variable [Sink σ]

/-- Makes use of a machine; there is no outcome if that never ends. -/
def Use.perform (u : Use) (m : Machine) (k : σ) : Option (Outcome σ) :=
  match u with
  | call c => c.perform m k
  | session lines => Debugger.session lines m k
  | runUpTo n => some (m.runUpTo n k)
  | sessionUpTo lines n => Debugger.sessionUpTo lines n m k

theorem Use.observed_perform (u : Use) : Observed (u.perform (σ := σ)) := by
  cases u with
  | call c => exact c.observed_perform
  | session lines => exact Debugger.observed_session lines
  | runUpTo n => exact Machine.observed_runUpTo n
  | sessionUpTo lines n => exact Debugger.observed_sessionUpTo lines n

namespace Machine

/-- The outcomes of uses that are made one after the other, each with its own sink. -/
def useAll : List (Use × σ) → Machine → Option (List (Outcome σ))
  | [], _ => some []
  | (u, k) :: uses, m => (u.perform m k).bind fun o => (useAll uses o.machine).map (o :: ·)

theorem useAll_calls (calls : List (Call × σ)) (m : Machine) :
    useAll (calls.map fun c => (.call c.1, c.2)) m = outcomes calls m := by
  induction calls generalizing m with
  | nil => rfl
  | cons c calls ih => simp only [List.map_cons, useAll, outcomes, Use.perform, ih]

theorem useAll_eq_under (uses : List (Use × σ)) (p : Options) (s : State) :
    useAll uses ⟨p, s⟩ = (useAll uses ⟨.loud, s⟩).map (·.map (·.under p)) := by
  induction uses generalizing s with
  | nil => rfl
  | cons use uses ih =>
    obtain ⟨u, k⟩ := use
    rw [useAll, useAll, u.observed_perform p s k]
    rcases ho : u.perform ⟨.loud, s⟩ k with _ | ⟨result, ⟨q, t⟩, k', log⟩
    · rfl
    obtain rfl : q = .loud := u.observed_perform.options_eq ho
    simp only [Option.map_some, Option.bind_some, Outcome.under, ih t, Option.map_map]
    rfl

/-- What options do to something that is done with a machine. What it comes to is the same under all
of them. Nothing is logged if all is off, and if events are on or snapshots are on, then what is
logged is what is left without the other of the two when both are on. -/
structure LogsOnly (f : Options → Option (List (Outcome σ))) : Prop where
  effects : ∀ p q, (f p).map (·.map Outcome.effects) = (f q).map (·.map Outcome.effects)
  silent : ∀ debug os, f ⟨false, false, debug⟩ = some os → ∀ o ∈ os, o.log = []
  verbose : ∀ debug debug', (f ⟨true, false, debug⟩).map (·.map Outcome.log) =
    (f ⟨true, true, debug'⟩).map (·.map fun o => o.log.filter (!·.isTrace))
  trace : ∀ debug debug', (f ⟨false, true, debug⟩).map (·.map Outcome.log) =
    (f ⟨true, true, debug'⟩).map (·.map fun o => o.log.filter (·.isTrace))

/-- The options only observe. Calls and debugging sessions, made in any order with any sinks on a
machine in any state, have the same results, leave the same states and write the same under all
options, also if they fail or never end; and what is logged is a matter of deleting entries. -/
theorem options_only_observe (uses : List (Use × σ)) (s : State) :
    LogsOnly fun p => useAll uses ⟨p, s⟩ where
  effects := by
    intro p q
    rw [useAll_eq_under uses p, useAll_eq_under uses q]
    simp only [Option.map_map, Function.comp_def, List.map_map, Outcome.effects_under]
  silent := by
    intro debug os hos o ho
    rw [useAll_eq_under] at hos
    obtain ⟨loud, -, rfl⟩ := Option.map_eq_some_iff.1 hos
    obtain ⟨o', -, rfl⟩ := List.mem_map.1 ho
    simp [Options.admits]
  verbose := by
    intro debug debug'
    rw [useAll_eq_under uses ⟨true, false, debug⟩, useAll_eq_under uses ⟨true, true, debug'⟩]
    simp only [Option.map_map, Function.comp_def, List.map_map, Outcome.log_under,
      Options.filter_admits_all, Options.admits_verbose]
  trace := by
    intro debug debug'
    rw [useAll_eq_under uses ⟨false, true, debug⟩, useAll_eq_under uses ⟨true, true, debug'⟩]
    simp only [Option.map_map, Function.comp_def, List.map_map, Outcome.log_under,
      Options.filter_admits_all, Options.admits_trace]

end Machine

end ByteMachine
