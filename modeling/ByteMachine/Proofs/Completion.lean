import ByteMachine.Proofs.Account
import ByteMachine.Proofs.Numerals

/-!
# Completion

The step that halts a machine logs that execution has finished, and after how many instructions. A
run of a halted machine makes no step and says nothing more about it. A step that is asked of a
halted machine executes nothing either, but it finds the machine halted and logs the same line once
more. So the line is in the log once for the halt and once for every step asked since
(`Machine.completions_are_counted`).
-/
namespace ByteMachine

/-! ## The line -/

/-- The words by which completion is reported. -/
def completionText (count : Nat) : String :=
  "Execution finished after " ++ Numeral.decimal count ++ " instructions"

theorem toList_completionText (count : Nat) :
    (completionText count).toList = "Execution finished after ".toList ++
      (Numeral.digits 10 count ++ " instructions".toList) := by
  unfold completionText
  simp

theorem completionText_injective {a b : Nat} (h : completionText a = completionText b) : a = b := by
  have letters := congrArg String.toList h
  rw [toList_completionText, toList_completionText] at letters
  exact Numeral.digits_injective (by decide) (by decide)
    (List.append_cancel_right (List.append_cancel_left letters))

/-- No other event is reported in these words. -/
theorem Event.message_eq_completionText_iff {e : Event} {count : Nat} :
    e.message = completionText count ↔
      ∃ cycles : UInt64, e = .finished cycles ∧ cycles.toNat = count := by
  constructor
  · intro same
    have front : (completionText count).toList.take 2 = ['E', 'x'] := by
      rw [toList_completionText]
      rfl
    rw [← same] at front
    cases e with
    | finished cycles => exact ⟨cycles, rfl, completionText_injective same⟩
    | executing address i =>
      -- The second character of an address is a digit.
      have told : (Event.executing address i).message = hexByte address ++ ("  " ++ i.text) :=
        String.append_assoc ..
      have foreign : 'x' ∉ (hexByte address).toList := notMem_hexByte (by decide) address
      rw [told, String.toList_append, List.take_left' (length_hexByte address)] at front
      rw [front] at foreign
      exact absurd (by decide) foreign
    | loaded size =>
      have told : (Event.loaded size).message =
          "Loaded " ++ Numeral.decimal size ++ " byte program" := rfl
      rw [told] at front
      simp at front
    | running => exact absurd front (by decide)
    | debuggerStarted => exact absurd front (by decide)
    | debuggerLeft => exact absurd front (by decide)
  · rintro ⟨cycles, rfl, rfl⟩
    rfl

/-- The numbers of instructions after which a log says that execution has finished. -/
def completions (log : List LogEntry) : List Nat :=
  log.filterMap fun
    | .event (.finished cycles) => some cycles.toNat
    | _ => none

theorem completions_append (log log' : List LogEntry) :
    completions (log ++ log') = completions log ++ completions log' :=
  List.filterMap_append

namespace Machine

variable {σ : Type} [Sink σ] {m : Machine} {k : σ} {n : Nat} {c : Call} {o : Outcome σ}
  {calls : List (Call × σ)} {os : List (Outcome σ)}

/-! ## Single calls -/

omit [Sink σ] in
theorem completions_attemptLog (m : Machine) : completions m.attemptLog = [] := by
  rw [attemptLog, completions_append]
  rcases m.state.fetch with fault | i <;> simp only [Options.logTrace, Options.logEvent] <;>
    split_ifs <;> rfl

omit [Sink σ] in
theorem completions_haltLog (verbose : m.options.verbose = true) :
    completions m.haltLog = if m.halted then [m.state.cycles.toNat] else [] := by
  rw [haltLog, Options.logEvent, if_pos verbose]
  split <;> rfl

omit [Sink σ] in
theorem completions_running (options : Options) :
    completions (options.logEvent .running) = [] := by
  rw [Options.logEvent]
  split <;> rfl

theorem log_step_of_halted (halted : m.halted = true) (k : σ) : (m.step k).log = m.haltLog := by
  have asked : m.step k = m.noteIfHalted k := by
    rw [step, execute_of_halted halted, Outcome.done_andThen]
  rw [asked, log_noteIfHalted]

/-- A step reports completion if it leaves the machine halted, even if it has found it so. -/
theorem completions_step (verbose : m.options.verbose = true) (k : σ) :
    completions (m.step k).log =
      if (m.step k).machine.halted then [(m.step k).machine.state.cycles.toNat] else [] := by
  by_cases halted : m.halted = true
  · rw [log_step_of_halted halted, completions_haltLog verbose, (step_of_halted halted k).machine]
  · have verbose' : (m.step k).machine.options.verbose = true := by rwa [options_step]
    rw [log_step (by simpa using halted), completions_append, completions_attemptLog,
      completions_haltLog verbose', List.nil_append]

/-- Steps on a budget report completion if they come to the halt. -/
theorem completions_stepUpTo (verbose : m.options.verbose = true) (running : m.halted = false)
    (k : σ) (n : Nat) :
    completions (m.stepUpTo n k).log =
      if (m.stepUpTo n k).machine.halted then [(m.stepUpTo n k).machine.state.cycles.toNat]
      else [] := by
  induction n generalizing m k with
  | zero => simp [Outcome.done, running, completions]
  | succ n ih =>
    have first := completions_step verbose k
    rw [stepUpTo_succ, if_neg (by simp [running])]
    rcases hr : (m.step k).result with fault | ⟨⟩
    · rw [Outcome.andThen_of_error hr]
      exact first
    · rw [Outcome.andThen_of_ok hr, Outcome.log_logAfter, completions_append, first,
        Outcome.machine_logAfter]
      by_cases halted : (m.step k).machine.halted = true
      · rw [stepUpTo_of_halted halted, if_pos halted]
        simp [Outcome.done, halted, completions]
      · rw [if_neg halted, List.nil_append]
        exact ih (by rwa [options_step]) (by simpa using halted) _

theorem options_stepUpTo (m : Machine) (k : σ) (n : Nat) :
    (m.stepUpTo n k).machine.options = m.options := by
  induction n generalizing m k with
  | zero => rfl
  | succ n ih =>
    rw [stepUpTo_succ]
    split
    case isTrue => rfl
    case isFalse =>
      rcases hr : (m.step k).result with fault | ⟨⟩
      · rw [Outcome.andThen_of_error hr, options_step]
      · rw [Outcome.andThen_of_ok hr, Outcome.machine_logAfter, ih, options_step]

/-- A run reports completion if it comes to the halt, and not if it has begun there. -/
theorem completions_run (verbose : m.options.verbose = true) (ran : m.run k = some o) :
    completions o.log =
      if m.halted = false ∧ o.machine.halted = true then [o.machine.state.cycles.toNat]
      else [] := by
  obtain ⟨n, -, rfl⟩ := run_eq_some_iff.1 ran
  rw [log_andThen_flush, Outcome.log_logAfter, completions_append, completions_running,
    List.nil_append, machine_andThen_flush, Outcome.machine_logAfter]
  by_cases halted : m.halted = true
  · rw [stepUpTo_of_halted halted]
    simp [Outcome.done, halted, completions]
  · have running : m.halted = false := by simpa using halted
    simp only [completions_stepUpTo verbose running, running, true_and]

theorem options_perform (kept : c.loads = false) (ho : c.perform m k = some o) :
    o.machine.options = m.options := by
  cases c with
  | load image => simp [Call.loads] at kept
  | step =>
    obtain rfl := Option.some.inj ho
    exact options_step m k
  | run =>
    obtain ⟨n, -, rfl⟩ := run_eq_some_iff.1 ho
    rw [machine_andThen_flush, Outcome.machine_logAfter, options_stepUpTo]

/-- A call reports completion if it leaves the machine halted, unless it is a run and has found the
machine so. -/
theorem completions_perform (verbose : m.options.verbose = true) (kept : c.loads = false)
    (ho : c.perform m k = some o) :
    completions o.log =
      if (c = .step ∨ m.halted = false) ∧ o.machine.halted = true then
        [o.machine.state.cycles.toNat]
      else [] := by
  cases c with
  | load image => simp [Call.loads] at kept
  | step =>
    obtain rfl := Option.some.inj ho
    simp [completions_step verbose]
  | run => simp [completions_run verbose ho]

/-! ## Calls one after the other -/

theorem options_after (kept : ∀ c ∈ calls, c.1.loads = false) (ho : outcomes calls m = some os) :
    (m.after os).options = m.options := by
  induction calls generalizing m os with
  | nil =>
    obtain rfl := Option.some.inj ho
    rfl
  | cons call calls ih =>
    rw [List.forall_mem_cons] at kept
    obtain ⟨o, hp, hrest⟩ := Option.bind_eq_some_iff.1 ho
    obtain ⟨ps, hps, rfl⟩ := Option.map_eq_some_iff.1 hrest
    exact (ih kept.2 hps).trans (options_perform kept.1 hp)

/-- The number of steps among the calls that are asked of a machine which has halted already. -/
def lateSteps (m : Machine) (calls : List (Call × σ)) (os : List (Outcome σ)) : Nat :=
  (calls.zip (m :: os.map (·.machine))).countP fun e => e.1.1 == .step && e.2.halted

omit [Sink σ] in
theorem lateSteps_cons (m : Machine) (c : Call) (k : σ) (calls : List (Call × σ)) (o : Outcome σ)
    (os : List (Outcome σ)) :
    lateSteps m ((c, k) :: calls) (o :: os) =
      lateSteps o.machine calls os + if c = .step ∧ m.halted = true then 1 else 0 := by
  rw [lateSteps, List.map_cons, List.zip_cons_cons, List.countP_cons]
  simp [lateSteps]

/-- A halted machine stays where it is, and each step that is asked of it reports completion. -/
theorem completions_of_halted (verbose : m.options.verbose = true) (halted : m.halted = true)
    (kept : ∀ c ∈ calls, c.1.loads = false) (ho : outcomes calls m = some os) :
    m.after os = m ∧
      completions (os.flatMap (·.log)) =
        List.replicate (lateSteps m calls os) m.state.cycles.toNat := by
  induction calls generalizing os with
  | nil =>
    obtain rfl := Option.some.inj ho
    exact ⟨rfl, rfl⟩
  | cons call calls ih =>
    obtain ⟨c, k⟩ := call
    rw [List.forall_mem_cons] at kept
    obtain ⟨o, hp, hrest⟩ := Option.bind_eq_some_iff.1 ho
    obtain ⟨ps, hps, rfl⟩ := Option.map_eq_some_iff.1 hrest
    have stays : o.machine = m := by
      obtain ⟨p, hp', idle⟩ := idle_of_halted halted kept.1 k
      rw [Option.some.inj (hp.symm.trans hp'), idle.machine]
    rw [stays] at hps
    obtain ⟨same, told⟩ := ih kept.2 hps
    refine ⟨by simpa [after, stays] using same, ?_⟩
    rw [List.flatMap_cons, completions_append, told, completions_perform verbose kept.1 hp,
      lateSteps_cons, stays]
    by_cases hc : c = .step
    · simp [hc, halted, List.replicate_succ]
    · simp [hc, halted]

/-- Completion is reported when the machine halts and by each step asked later. -/
theorem completions_of_running (verbose : m.options.verbose = true) (running : m.halted = false)
    (kept : ∀ c ∈ calls, c.1.loads = false) (ho : outcomes calls m = some os) :
    completions (os.flatMap (·.log)) =
      if (m.after os).halted then
        List.replicate (lateSteps m calls os + 1) (m.after os).state.cycles.toNat
      else [] := by
  induction calls generalizing m os with
  | nil =>
    obtain rfl := Option.some.inj ho
    simp [after, running, completions]
  | cons call calls ih =>
    obtain ⟨c, k⟩ := call
    rw [List.forall_mem_cons] at kept
    obtain ⟨o, hp, hrest⟩ := Option.bind_eq_some_iff.1 ho
    obtain ⟨ps, hps, rfl⟩ := Option.map_eq_some_iff.1 hrest
    have verbose' : o.machine.options.verbose = true := by rwa [options_perform kept.1 hp]
    have further : m.after (o :: ps) = o.machine.after ps := rfl
    rw [List.flatMap_cons, completions_append, completions_perform verbose kept.1 hp,
      lateSteps_cons, further]
    by_cases halted : o.machine.halted = true
    · obtain ⟨same, told⟩ := completions_of_halted verbose' halted kept.2 hps
      rw [told, same]
      simp [running, halted, List.replicate_succ]
    · rw [ih verbose' (by simpa using halted) kept.2 hps]
      simp [running, halted]

omit [Sink σ] in
/-- What loading comes to, whether or not the image is accepted. -/
theorem load_starts (m : Machine) (image : List UInt8) (k : σ) :
    (m.load image k).machine.options = m.options ∧ (m.load image k).machine.halted = false ∧
      completions (m.load image k).log = [] := by
  by_cases fits : image.length ≤ Memory.size
  · rw [load_of_le fits, note, Options.logEvent]
    refine ⟨rfl, rfl, ?_⟩
    dsimp only
    split_ifs <;> rfl
  · rw [load_of_gt (Nat.not_le.1 fits)]
    exact ⟨rfl, rfl, rfl⟩

/-- Completion is reported by the call that halts the machine and by every step that is asked of it
afterwards. From the loading of an image on, whatever steps and runs are made, the log says nothing
of completion as long as the machine has not halted, not even in the course of a run that has not
come to its end. Once it has, the log says so once and then once more for each step, always with
the number of instructions that have been executed; runs of the halted machine do not say it again.
There is no other entry of these words. -/
theorem completions_are_counted (image : List UInt8) (verbose : m.options.verbose = true)
    (kept : ∀ c ∈ calls, c.1.loads = false)
    (ho : outcomes calls (m.load image k).machine = some os) :
    let start := (m.load image k).machine
    (∃ h, History.ByCalls calls ⟨start, []⟩ h) ∧
      (∀ h, History.ByCalls calls ⟨start, []⟩ h →
        h.machine = start.after os ∧
        completions ((m.load image k).log ++ os.flatMap (·.log)) =
          (if h.machine.halted then
            List.replicate (lateSteps start calls os + 1) (h.executed.length % UInt64.size)
          else []) ∧
        (h.machine.halted = false → ∀ (k' : σ) (n : Nat),
          (h.machine.stepUpTo n k').machine.halted = false →
            completions (h.machine.stepUpTo n k').log = [])) ∧
      ∀ (e : Event) (count : Nat), e.message = completionText count ↔
        ∃ cycles : UInt64, e = .finished cycles ∧ cycles.toNat = count := by
  intro start
  obtain ⟨options, running, silent⟩ := load_starts m image k
  have verbose' : start.options.verbose = true := by rwa [options]
  refine ⟨History.exists_byCalls (h := ⟨start, []⟩) ho, ?_, ?_⟩
  · intro h made
    have accounts : h.Accounts := made.keeps History.accounts_executed History.accounts_load
      (History.accounts_load m image k)
    have there : h.machine = start.after os := made.machine_eq ho
    have counted : h.machine.state.cycles.toNat = h.executed.length % UInt64.size := by
      rw [accounts.cycles, UInt64.toNat_ofNat']
    refine ⟨there, ?_, ?_⟩
    · rw [completions_append, silent, List.nil_append,
        completions_of_running verbose' running kept ho, ← there, counted]
    · intro going k' n still
      have verbose'' : h.machine.options.verbose = true := by
        rwa [there, options_after kept ho]
      rw [completions_stepUpTo verbose'' going, if_neg (by simp [still])]
  · intro e count
    exact Event.message_eq_completionText_iff

/-- A machine that logs events, with a program that prints a register and halts. -/
def printsAndHalts : Outcome LineSink := (new ⟨true, false, false⟩).load [0x47, 0, 0x01] .unlimited

/-- A step whose line is refused, then as many as are needed, and one more. -/
def stepsPastHalt : List (Call × LineSink) :=
  [(.step, .new (some 0) false), (.step, .unlimited), (.step, .unlimited), (.step, .unlimited)]

/-- Two instructions are executed, and the last step reports them again. -/
theorem stepsPastHalt_are_counted :
    ∃ os, outcomes stepsPastHalt printsAndHalts.machine = some os ∧
      lateSteps printsAndHalts.machine stepsPastHalt os = 1 ∧
      completions (printsAndHalts.log ++ os.flatMap (·.log)) = [2, 2] := by
  let os : List (Outcome LineSink) :=
    let o := printsAndHalts.machine.step (LineSink.new (some 0) false)
    let o' := o.machine.step LineSink.unlimited
    let o'' := o'.machine.step LineSink.unlimited
    [o, o', o'', o''.machine.step LineSink.unlimited]
  have ho : outcomes stepsPastHalt printsAndHalts.machine = some os := rfl
  have made := History.ByCalls.cons
    (.step (LineSink.new (some 0) false) ⟨printsAndHalts.machine, []⟩)
    (.cons (.step LineSink.unlimited _) (.cons (.step LineSink.unlimited _)
      (.cons (.step LineSink.unlimited _) (.nil _))))
  have late : lateSteps printsAndHalts.machine stepsPastHalt os = 1 := by decide +kernel
  obtain ⟨-, told, -⟩ := completions_are_counted (m := new ⟨true, false, false⟩)
    (k := .unlimited) [0x47, 0, 0x01] rfl (by simp [stepsPastHalt, Call.loads]) ho
  obtain ⟨-, counted, -⟩ := told _ made
  refine ⟨os, ho, late, counted.trans ?_⟩
  decide +kernel

/-- A machine that logs events, with a halt. -/
def halts : Outcome LineSink := (new ⟨true, false, false⟩).load [0x01] .unlimited

/-- Two steps. -/
def stepsTwice : List (Call × LineSink) := [(.step, .unlimited), (.step, .unlimited)]

/-- The machine has halted after one instruction, and the second step reports it again. -/
theorem completion_is_reported_twice :
    ∃ os, outcomes stepsTwice halts.machine = some os ∧ (halts.machine.after os).halted = true ∧
      completions (halts.log ++ os.flatMap (·.log)) = [1, 1] := by
  refine ⟨_, rfl, ?_⟩
  decide +kernel

end Machine

end ByteMachine
