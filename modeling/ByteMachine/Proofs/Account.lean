import ByteMachine.Proofs.Faults
import ByteMachine.Proofs.Halting

/-!
# The account of a run

With everything logged, the log of a run is an account of the steps that the run has attempted: for
each of them the snapshot of the state before it and the instruction there, if there is one, and in
the end a line that counts the instructions, if the machine has halted
(`Machine.log_is_an_account`). What a run attempts is told by plain steps: one after the other, up
to the first that fails or halts the machine. The account is given in entries, which can be counted,
and in lines, every one of which is a text for any time at which it is stamped.
-/
namespace ByteMachine

/-- What is logged of an attempt to step from a state. -/
def State.entries (s : State) : List LogEntry :=
  .trace s.snapshot ::
    match s.fetch with
    | .ok i => [.event (.executing s.pc i)]
    | .error _ => []

/-- Whether the entry is about an instruction. -/
def LogEntry.isExecuting : LogEntry → Bool
  | event (.executing _ _) => true
  | _ => false

/-! ## Lines -/

/-- The line of an event: the time, the part that reports, and the event in words. -/
def eventLine (reporter words stamp : String) : String :=
  "[" ++ stamp ++ "] -- [" ++ reporter ++ "] " ++ words ++ "\n"

namespace State

/-- The line that traces a state, in columns behind one another. It has no time. -/
def traceLine (s : State) : String :=
  let bytes := [s.memory.read s.pc, s.memory.read (s.pc + 1), s.memory.read (s.pc + 2)]
  "TRACE: " ++ hexByte s.pc ++ " | " ++ String.intercalate " " (bytes.map hexByte) ++ " | " ++
    String.intercalate " " (s.registers.toList.map hexByte) ++ "\n"

/-- The lines about an attempt to step from a state: its trace, and the program counter with the
instruction there, if there is one. -/
def attemptLines (s : State) : List (String → String) :=
  (fun _ => s.traceLine) ::
    match s.fetch with
    | .ok i => [eventLine "cpu" (hexByte s.pc ++ "  " ++ i.text)]
    | .error _ => []

end State

/-- The lines about a run, after an image of the given size was loaded: those of its attempts, and
the number of instructions if the machine has halted. -/
def runLines (size : Nat) (attempts : List State) (last : State) : List (String → String) :=
  eventLine "vm" ("Loaded " ++ Numeral.decimal size ++ " byte program") ::
    eventLine "vm" "Running" ::
    (attempts.flatMap State.attemptLines ++
      if last.halted then
        [eventLine "vm" ("Execution finished after " ++ Numeral.decimal last.cycles.toNat ++
          " instructions")]
      else [])

/-- The line of an entry, for the time at which it is stamped. -/
def LogEntry.line (e : LogEntry) (stamp : String) : String := e.render stamp

theorem Snapshot.contents_eq (v : UInt8) (vs : List UInt8) :
    (v :: vs).foldr (fun v rest => " " ++ hexByte v ++ rest) "" =
      " " ++ String.intercalate " " ((v :: vs).map hexByte) := by
  induction vs generalizing v with
  | nil => simp
  | cons w vs ih =>
    rw [List.foldr_cons, ih]
    simp only [List.map_cons, String.intercalate_cons_cons, String.append_assoc]

namespace State

theorem line_snapshot (s : State) (stamp : String) :
    (LogEntry.trace s.snapshot).line stamp = s.traceLine := by
  obtain ⟨v, vs, cells⟩ : ∃ v vs, s.registers.toList = v :: vs :=
    List.exists_cons_of_length_pos (by simp [Register.count])
  have told : (LogEntry.trace s.snapshot).line stamp = "TRACE: " ++ hexByte s.pc ++ " | " ++
      hexByte (s.memory.read s.pc) ++ " " ++ hexByte (s.memory.read (s.pc + 1)) ++ " " ++
      hexByte (s.memory.read (s.pc + 2)) ++ " |" ++
        s.registers.toList.foldr (fun v rest => " " ++ hexByte v ++ rest) "" ++ "\n" := rfl
  have bar : " | " = " |" ++ " " := by decide
  rw [told, traceLine, cells, Snapshot.contents_eq, bar]
  simp only [List.map_cons, List.map_nil, String.intercalate_cons_cons,
    String.intercalate_singleton, String.append_assoc]

theorem map_line_entries (s : State) : s.entries.map LogEntry.line = s.attemptLines := by
  have trace : (LogEntry.trace s.snapshot).line = fun _ => s.traceLine :=
    funext s.line_snapshot
  rw [entries, attemptLines, List.map_cons, trace]
  rcases s.fetch with fault | i <;> rfl

end State

/-! ## Instructions at the program counter -/

namespace State

variable {s : State}

theorem fetch_of_undecodable (h : s.Undecodable) : ∃ fault, s.fetch = .error fault := by
  rcases hf : s.fetch with fault | i
  · exact ⟨fault, rfl⟩
  · obtain ⟨op, hop, -⟩ := Instruction.decode_eq_ok_iff.1 hf
    exact absurd (by simp [hop, code]) (h op)

theorem fetch_of_byte {op : Opcode} (h : op.byte = s.code 0) : ∃ i, s.fetch = .ok i :=
  ⟨_, Instruction.decode_eq_ok_iff.2 ⟨op, by simp [h, code], rfl⟩⟩

end State

namespace Machine

variable {σ : Type} [Sink σ] {m : Machine} {k : σ} {n : Nat}

/-! ## Attempts -/

/-- A machine stops after `n` steps: it goes on up to the last of them, which fails or halts it. -/
structure StopsAfter (m : Machine) (k : σ) (n : Nat) : Prop where
  going : ∀ i < n, m.GoesOn k i
  stopped : (m.steps k n).Stopped

/-- The states from which `n` steps are attempted. -/
def statesBefore (m : Machine) (k : σ) (n : Nat) : List State :=
  (List.range n).map fun i => (m.steps k i).machine.state

/-- What is logged of `n` attempts under the options of the machine. -/
def attemptsLog (m : Machine) (k : σ) (n : Nat) : List LogEntry :=
  (List.range n).flatMap fun i => (m.steps k i).machine.attemptLog

/-- What is logged when the machine stands halted. -/
def haltLog (m : Machine) : List LogEntry :=
  if m.halted then m.options.logEvent (.finished m.state.cycles) else []

omit [Sink σ] in
theorem log_noteIfHalted (m : Machine) (k : σ) : (m.noteIfHalted k).log = m.haltLog := by
  rw [noteIfHalted, haltLog]
  split <;> rfl

theorem log_execute (running : m.halted = false) : (m.execute k).log = m.attemptLog := by
  rw [execute_of_not_halted running]
  rcases m.state.next with fault | s
  · rfl
  rcases m.state.printed? with _ | v
  · rfl
  simp only
  split <;> rfl

/-- A step logs what it attempts, and the halt if it comes to it. -/
theorem log_step (running : m.halted = false) :
    (m.step k).log = m.attemptLog ++ (m.step k).machine.haltLog := by
  rcases hr : (m.execute k).result with fault | ⟨⟩
  · have failed : m.step k = m.execute k := Outcome.andThen_of_error hr _
    have stays : (m.step k).machine = m := (step_error_cases (by rw [failed, hr])).1
    rw [stays, failed, log_execute running, haltLog, running]
    simp
  · have made : m.step k = ((m.execute k).machine.noteIfHalted (m.execute k).sink).logAfter
        (m.execute k).log := Outcome.andThen_of_ok hr _
    have same : (m.step k).machine = (m.execute k).machine := by
      rw [made, Outcome.machine_logAfter, (noteIfHalted_endsIn _ _).machine]
    rw [same, made, Outcome.log_logAfter, log_noteIfHalted, log_execute running]

/-- Steps behind a first one that succeeds are steps from where it leads. -/
theorem steps_shift (ok : (m.step k).result = .ok ()) (n : Nat) :
    (m.steps k (n + 1)).EndsLike ((m.step k).machine.steps (m.step k).sink n) := by
  induction n with
  | zero => exact ⟨ok, rfl, rfl⟩
  | succ n ih =>
    rw [steps_succ, ih.machine, ih.sink, ← steps_succ]
    exact ⟨rfl, rfl, rfl⟩

theorem goesOn_shift (running : m.halted = false) (ok : (m.step k).result = .ok ())
    (later : (m.step k).machine.GoesOn (m.step k).sink n) : m.GoesOn k (n + 1) := by
  refine ⟨?_, ?_⟩
  · intro i hi
    cases i with
    | zero => rfl
    | succ i => exact (steps_shift ok i).result.trans (later.succeeded i (by omega))
  · intro i hi
    cases i with
    | zero => exact running
    | succ i =>
      rw [(steps_shift ok i).machine]
      exact later.running i (by omega)

theorem goesOn_zero (running : m.halted = false) : m.GoesOn k 0 where
  succeeded := by
    intro i hi
    obtain rfl := Nat.le_zero.1 hi
    rfl
  running := by
    intro i hi
    obtain rfl := Nat.le_zero.1 hi
    exact running

theorem attemptsLog_succ (ok : (m.step k).result = .ok ()) (n : Nat) :
    m.attemptsLog k (n + 1) =
      m.attemptLog ++ (m.step k).machine.attemptsLog (m.step k).sink n := by
  rw [attemptsLog, List.range_succ_eq_map, List.flatMap_cons, List.flatMap_map]
  simp only [(steps_shift ok _).machine]
  rfl

/-- Steps on a budget that come to a stop have a last attempt, and they log what is attempted up to
there and the halt if it comes to it. -/
theorem exists_stopsAfter {count : Nat} (running : m.halted = false)
    (stopped : (m.stepUpTo count k).Stopped) :
    ∃ n, m.StopsAfter k (n + 1) ∧
      (m.stepUpTo count k).EndsLike (m.steps k (n + 1)) ∧
      (m.stepUpTo count k).log =
        m.attemptsLog k (n + 1) ++ (m.steps k (n + 1)).machine.haltLog := by
  -- The budget is spent from the front, so what is told by later steps is shifted by one.
  induction count generalizing m k with
  | zero =>
    have halted : m.halted = true := stopped.resolve_right (by simp [Outcome.done])
    simp [running] at halted
  | succ count ih =>
    have first : m.attemptsLog k 1 = m.attemptLog := by simp [attemptsLog, Outcome.done]
    have here : ∀ i < 1, m.GoesOn k i := by
      intro i hi
      obtain rfl := Nat.lt_one_iff.1 hi
      exact goesOn_zero running
    rw [stepUpTo_succ, if_neg (by simp [running])] at stopped ⊢
    rcases hr : (m.step k).result with fault | ⟨⟩
    · rw [Outcome.andThen_of_error hr] at stopped ⊢
      exact ⟨0, ⟨here, stopped⟩, ⟨rfl, rfl, rfl⟩, by rw [first]; exact log_step running⟩
    rw [Outcome.andThen_of_ok hr] at stopped ⊢
    by_cases halted : (m.step k).machine.halted = true
    · refine ⟨0, ⟨here, .inl halted⟩, ?_, ?_⟩
      · rw [stepUpTo_of_halted halted]
        exact ⟨hr.symm, rfl, rfl⟩
      · rw [stepUpTo_of_halted halted, Outcome.log_logAfter, first, log_step running]
        exact List.append_nil _
    · have going : (m.step k).machine.halted = false := by simpa using halted
      obtain ⟨n, stops, ends, log⟩ := ih going stopped
      have shift := steps_shift hr (n + 1)
      refine ⟨n + 1, ⟨?_, ?_⟩, ?_, ?_⟩
      · intro i hi
        cases i with
        | zero => exact goesOn_zero running
        | succ i => exact goesOn_shift running hr (stops.going i (by omega))
      · rw [Outcome.Stopped, shift.machine, shift.result]
        exact stops.stopped
      · rw [Outcome.EndsLike, shift.result, shift.machine, shift.sink]
        exact ends.logAfter _
      · rw [Outcome.log_logAfter, log, attemptsLog_succ hr, shift.machine, log_step running,
          haltLog, if_neg halted]
        simp

theorem log_flush (m : Machine) (k : σ) : (m.flush k).log = [] := by
  rw [flush]
  split <;> rfl

theorem log_andThen_flush (o : Outcome σ) : (o.andThen flush).log = o.log := by
  rcases hr : o.result with fault | ⟨⟩
  · rw [Outcome.andThen_of_error hr]
  · rw [Outcome.andThen_of_ok hr, Outcome.log_logAfter, log_flush, List.append_nil]

/-- A run logs that it begins, then its attempts and then the halt if it comes to it. -/
theorem exists_stopsAfter_of_run {o : Outcome σ} (running : m.halted = false)
    (ran : m.run k = some o) :
    ∃ n, m.StopsAfter k (n + 1) ∧
      o.EndsLike ((m.steps k (n + 1)).andThen flush) ∧
      o.log = m.options.logEvent .running ++
        (m.attemptsLog k (n + 1) ++ (m.steps k (n + 1)).machine.haltLog) := by
  obtain ⟨count, stopped, rfl⟩ := run_eq_some_iff.1 ran
  obtain ⟨n, stops, ends, log⟩ := exists_stopsAfter running stopped
  refine ⟨n, stops, Outcome.EndsLike.andThen (ends.logAfter _) flush, ?_⟩
  rw [log_andThen_flush, Outcome.log_logAfter, log]

/-! ## What everything logged amounts to -/

theorem attemptLog_eq_entries (verbose : m.options.verbose = true)
    (trace : m.options.trace = true) : m.attemptLog = m.state.entries := by
  rw [attemptLog, State.entries, Options.logTrace, if_pos trace]
  rcases m.state.fetch with fault | i
  · rfl
  · simp [Options.logEvent, verbose]

theorem options_step (m : Machine) (k : σ) : (m.step k).machine.options = m.options := by
  by_cases halted : m.halted = true
  · rw [(step_of_halted halted k).machine]
  have running : m.halted = false := by simpa using halted
  rcases hr : (m.step k).result with fault | ⟨⟩
  · rw [(step_error_cases hr).1]
  · obtain ⟨s, -, moved, -⟩ := step_ok_cases running hr
    rw [moved, options_withState]

theorem options_steps (m : Machine) (k : σ) (n : Nat) :
    (m.steps k n).machine.options = m.options := by
  induction n with
  | zero => rfl
  | succ n ih => rw [steps_succ, options_step, ih]

theorem attemptsLog_eq_entries (verbose : m.options.verbose = true)
    (trace : m.options.trace = true) (n : Nat) :
    m.attemptsLog k n = (m.statesBefore k n).flatMap State.entries := by
  rw [attemptsLog, statesBefore, List.flatMap_map]
  refine List.flatMap_congr ?_
  intro i _
  exact attemptLog_eq_entries (by rwa [options_steps]) (by rwa [options_steps])

theorem statesBefore_succ (m : Machine) (k : σ) (n : Nat) :
    m.statesBefore k (n + 1) = m.statesBefore k n ++ [(m.steps k n).machine.state] := by
  rw [statesBefore, List.range_succ, List.map_append]
  rfl

/-! ## Counts -/

/-- The steps before a stop are made. -/
theorem GoesOn.moves {i : Nat} (h : m.GoesOn k n) (hi : i < n) :
    (m.steps k i).machine.Moves (m.steps k i).sink :=
  moves_of_ok (h.running i (by omega)) (h.succeeded (i + 1) (by omega))

theorem Moves.cycles (h : m.Moves k) :
    (m.step k).machine.state.cycles = m.state.cycles + 1 := by
  obtain ⟨e, -, executes⟩ := exists_executes h
  exact executes.cycles

theorem cycles_steps (h : ∀ i < n, (m.steps k i).machine.Moves (m.steps k i).sink) :
    (m.steps k n).machine.state.cycles = m.state.cycles + UInt64.ofNat n := by
  induction n with
  | zero => simp [Outcome.done]
  | succ n ih =>
    rw [steps_succ, (h n (by omega)).cycles, ih (fun i hi => h i (by omega)), UInt64.ofNat_add,
      ← UInt64.add_assoc]
    rfl

theorem countP_isExecuting_of_fetch_ok {s : State} {i : Instruction} (h : s.fetch = .ok i) :
    s.entries.countP LogEntry.isExecuting = 1 := by
  rw [State.entries, h]
  rfl

theorem countP_isExecuting_of_fetch_error {s : State} {fault : Fault} (h : s.fetch = .error fault) :
    s.entries.countP LogEntry.isExecuting = 0 := by
  rw [State.entries, h]
  rfl

theorem countP_isTrace_entries (s : State) : s.entries.countP LogEntry.isTrace = 1 := by
  rw [State.entries]
  rcases s.fetch with fault | i <;> rfl

/-- An attempt adds its entries to those of the attempts before it. -/
theorem countP_statesBefore_succ (m : Machine) (k : σ) (n : Nat) (p : LogEntry → Bool) :
    ((m.statesBefore k (n + 1)).flatMap State.entries).countP p =
      ((m.statesBefore k n).flatMap State.entries).countP p +
        (m.steps k n).machine.state.entries.countP p := by
  rw [statesBefore_succ, List.flatMap_append, List.countP_append, List.flatMap_singleton]

/-- There is one snapshot for each attempt. -/
theorem countP_isTrace_statesBefore (m : Machine) (k : σ) (n : Nat) :
    ((m.statesBefore k n).flatMap State.entries).countP LogEntry.isTrace = n := by
  induction n with
  | zero => rfl
  | succ n ih => rw [countP_statesBefore_succ, ih, countP_isTrace_entries]

/-- There is one instruction for each attempt that is made. -/
theorem countP_isExecuting_of_moves
    (h : ∀ i < n, (m.steps k i).machine.Moves (m.steps k i).sink) :
    ((m.statesBefore k n).flatMap State.entries).countP LogEntry.isExecuting = n := by
  induction n with
  | zero => rfl
  | succ n ih =>
    obtain ⟨e, -, executes⟩ := exists_executes (h n (by omega))
    rw [countP_statesBefore_succ, ih fun i hi => h i (by omega),
      countP_isExecuting_of_fetch_ok executes.fetched]

/-! ## The account -/

/-- The machine has halted if and only if one of the attempts has executed a halt. -/
theorem StopsAfter.halted_iff (h : m.StopsAfter k (n + 1)) :
    (m.steps k (n + 1)).machine.halted = true ↔
      ∃ i < n + 1, ∃ e, (m.steps k i).machine.Executes (m.steps k i).sink e ∧
        e.instruction = .halt := by
  have running := (h.going n (by omega)).running n (Nat.le_refl n)
  constructor
  · intro halted
    rcases moves_or_stays (m.steps k n).machine (m.steps k n).sink with moves | stays
    · obtain ⟨e, -, executes⟩ := exists_executes moves
      refine ⟨n, by omega, e, executes, ?_⟩
      by_contra others
      rw [steps_succ, executes.not_halted others] at halted
      exact Bool.false_ne_true halted
    · rw [steps_succ, stays, running] at halted
      exact absurd halted Bool.false_ne_true
  · rintro ⟨i, hi, e, executes, halt⟩
    have halted : (m.steps k (i + 1)).machine.halted = true := (executes.haltsAt halt).halted
    obtain rfl | before : i = n ∨ i < n := by omega
    · exact halted
    · have going := (h.going n (by omega)).running (i + 1) before
      rw [going] at halted
      exact absurd halted Bool.false_ne_true

/-- How a run ends that has executed `c` instructions: the numbers of the instructions and of the
snapshots in its log. -/
inductive EndsAfter (m : Machine) (k : σ) (o : Outcome σ) (c : Nat) : Nat → Nat → Prop
  /-- The machine has halted; the sink may have refused to be flushed. -/
  | halted (h : o.machine.halted = true)
      (hr : o.result = .ok () ∨ ∃ reason, (Sink.flush (m.steps k c).sink).1 = .error reason ∧
        o.result = .error (.output reason)) : EndsAfter m k o c c c
  /-- There is no instruction at the program counter. -/
  | illegalInstruction {b p : UInt8} (h : o.machine.halted = false)
      (hr : o.result = .error (.illegalInstruction b p)) : EndsAfter m k o c c (c + 1)
  /-- The instruction there names no register. -/
  | invalidRegister {b : UInt8} (h : o.machine.halted = false)
      (hr : o.result = .error (.invalidRegister b)) : EndsAfter m k o c (c + 1) (c + 1)
  /-- The instruction there prints a line that the sink refuses. -/
  | lineRefused {reason : String} (h : o.machine.halted = false)
      (refused : (m.steps k c).machine.LineRefused (m.steps k c).sink reason)
      (hr : o.result = .error (.output reason)) : EndsAfter m k o c (c + 1) (c + 1)

/-- The log is an account of a run that has attempted `n` steps and executed `c` instructions, after
an image of the given size was loaded. -/
structure Account (m : Machine) (k : σ) (o : Outcome σ) (size : Nat) (log : List LogEntry)
    (n c : Nat) : Prop where
  stops : m.StopsAfter k n
  machine : o.machine = (m.steps k n).machine
  /-- The attempts that execute an instruction are the first `c`. -/
  executes : ∀ i < n,
    (∃ e, (m.steps k i).machine.Executes (m.steps k i).sink e) ↔ i < c
  cycles : o.machine.state.cycles.toNat = c % UInt64.size
  halted : o.machine.halted = true ↔
    ∃ i < n, ∃ e, (m.steps k i).machine.Executes (m.steps k i).sink e ∧ e.instruction = .halt
  /-- The entries come in the order in which things have happened. -/
  entries : log = .event (.loaded size) :: .event .running ::
    ((m.statesBefore k n).flatMap State.entries ++
      if o.machine.halted then [.event (.finished o.machine.state.cycles)] else [])
  /-- These are the entries as lines. -/
  lines : log.map LogEntry.line = runLines size (m.statesBefore k n) o.machine.state
  ends : m.EndsAfter k o c (log.countP LogEntry.isExecuting) (log.countP LogEntry.isTrace)

theorem moves_iff_executes : m.Moves k ↔ ∃ e, m.Executes k e := by
  constructor
  · intro moves
    obtain ⟨e, -, executes⟩ := exists_executes moves
    exact ⟨e, executes⟩
  · rintro ⟨e, executes⟩
    exact executes.toMoves

theorem StopsAfter.moves_iff_of_error {fault : Fault} (h : m.StopsAfter k (n + 1))
    (failed : (m.steps k (n + 1)).result = .error fault) :
    ∀ i < n + 1, (m.steps k i).machine.Moves (m.steps k i).sink ↔ i < n := by
  intro i hi
  refine ⟨?_, (h.going n (by omega)).moves⟩
  intro moves
  by_contra last
  obtain rfl : i = n := by omega
  exact absurd (moves.succeeds.symm.trans failed) (by simp)

theorem StopsAfter.moves_of_ok (h : m.StopsAfter k (n + 1))
    (ok : (m.steps k (n + 1)).result = .ok ()) :
    ∀ i < n + 1, (m.steps k i).machine.Moves (m.steps k i).sink := by
  intro i hi
  have going := h.going n (by omega)
  obtain rfl | before : i = n ∨ i < n := by omega
  · exact Machine.moves_of_ok (going.running i (Nat.le_refl i)) ok
  · exact going.moves before

theorem toNat_cycles_steps (zero : m.state.cycles = 0)
    (made : ∀ i < n, (m.steps k i).machine.Moves (m.steps k i).sink) :
    (m.steps k n).machine.state.cycles.toNat = n % UInt64.size := by
  rw [cycles_steps made, zero, UInt64.zero_add, UInt64.toNat_ofNat']

/-- The last attempt of a run that fails is one more than are executed. -/
theorem endsAfter_of_error {o : Outcome σ} {fault : Fault}
    (running : (m.steps k n).machine.halted = false)
    (failed : (m.steps k (n + 1)).result = .error fault) (halted : o.machine.halted = false)
    (hr : o.result = .error fault) :
    m.EndsAfter k o n (n + (m.steps k n).machine.state.entries.countP LogEntry.isExecuting)
      (n + 1) := by
  rcases (step_eq_error_iff running).1 failed with hn | ⟨reason, refused, rfl⟩
  · rcases (State.next_eq_error_iff running).1 hn with ⟨undecodable, rfl⟩ | ⟨b, misnames, rfl⟩
    · obtain ⟨fault, hf⟩ := State.fetch_of_undecodable undecodable
      rw [countP_isExecuting_of_fetch_error hf]
      exact .illegalInstruction halted hr
    · obtain ⟨op, hop, -⟩ := misnames
      obtain ⟨i, hf⟩ := State.fetch_of_byte hop
      rw [countP_isExecuting_of_fetch_ok hf]
      exact .invalidRegister halted hr
  · obtain ⟨v, prints, -⟩ := id refused
    obtain ⟨i, hf⟩ := State.fetch_of_byte prints.1.symm
    rw [countP_isExecuting_of_fetch_ok hf]
    exact .lineRefused halted refused hr

theorem endsAfter_of_ok {o : Outcome σ} (halted : o.machine.halted = true)
    (hr : o.result = ((m.steps k n).machine.flush (m.steps k n).sink).result) :
    m.EndsAfter k o n n n := by
  refine .halted halted ?_
  rw [hr, flush]
  rcases hf : Sink.flush (m.steps k n).sink with ⟨reason | ⟨⟩, k'⟩
  · exact .inr ⟨reason, rfl, rfl⟩
  · exact .inl rfl

/-- A run that stops after some attempts ends in one of four ways, and all attempts but possibly the
last are made. -/
theorem exists_endsAfter {o : Outcome σ} (stops : m.StopsAfter k (n + 1))
    (same : o.machine = (m.steps k (n + 1)).machine)
    (result : o.result = ((m.steps k (n + 1)).andThen flush).result) :
    ∃ c ≤ n + 1, (∀ i < n + 1, (m.steps k i).machine.Moves (m.steps k i).sink ↔ i < c) ∧
      o.machine = (m.steps k c).machine ∧
      m.EndsAfter k o c (n + (m.steps k n).machine.state.entries.countP LogEntry.isExecuting)
        (n + 1) := by
  rcases hr : (m.steps k (n + 1)).result with fault | ⟨⟩
  · have here := (stops.going n (by omega)).running n (Nat.le_refl n)
    have stays : o.machine = (m.steps k n).machine := same.trans (step_error_cases hr).1
    have failed : o.result = .error fault := by rw [result, Outcome.andThen_of_error hr, hr]
    refine ⟨n, by omega, stops.moves_iff_of_error hr, stays, ?_⟩
    exact endsAfter_of_error here hr (by rw [stays, here]) failed
  · have made := stops.moves_of_ok hr
    have halted : o.machine.halted = true := by
      rw [same]
      exact stops.stopped.resolve_right (by simp [hr])
    have flushed :
        o.result = ((m.steps k (n + 1)).machine.flush (m.steps k (n + 1)).sink).result := by
      rw [result, Outcome.andThen_of_ok hr, Outcome.result_logAfter]
    obtain ⟨e, -, executes⟩ := exists_executes (made n (by omega))
    refine ⟨n + 1, Nat.le_refl _, fun i hi => ⟨fun _ => hi, fun _ => made i hi⟩, same, ?_⟩
    rw [countP_isExecuting_of_fetch_ok executes.fetched]
    exact endsAfter_of_ok halted flushed

/-- Besides the entries of the attempts, a log has no snapshots and no instructions. -/
theorem countP_account {p : LogEntry → Bool} (size : Nat) (entries : List LogEntry) (halted : Bool)
    (cycles : UInt64) (hl : p (.event (.loaded size)) = false) (hr : p (.event .running) = false)
    (hf : p (.event (.finished cycles)) = false) :
    (.event (.loaded size) :: .event .running ::
      (entries ++ if halted then [.event (.finished cycles)] else [])).countP p =
        entries.countP p := by
  cases halted <;> simp [hl, hr, hf]

/-- The entries of an account have the lines of the run. -/
theorem map_line_account (size : Nat) (attempts : List State) (last : State) :
    (LogEntry.event (.loaded size) :: .event .running :: (attempts.flatMap State.entries ++
      if last.halted then [.event (.finished last.cycles)] else [])).map LogEntry.line =
        runLines size attempts last := by
  have finished : (if last.halted then [LogEntry.event (.finished last.cycles)] else []).map
      LogEntry.line = if last.halted then [eventLine "vm" ("Execution finished after " ++
        Numeral.decimal last.cycles.toNat ++ " instructions")] else [] := by
    split <;> rfl
  rw [List.map_cons, List.map_cons, List.map_append, finished, List.map_flatMap, runLines]
  simp only [State.map_line_entries]
  rfl

/-- What a run from the start logs is an account of it. -/
theorem exists_account {o : Outcome σ} (verbose : m.options.verbose = true)
    (trace : m.options.trace = true) (running : m.halted = false) (zero : m.state.cycles = 0)
    (ran : m.run k = some o) (size : Nat) :
    ∃ n c, m.Account k o size (.event (.loaded size) :: o.log) n c := by
  obtain ⟨n, stops, flushed, log⟩ := exists_stopsAfter_of_run running ran
  have same : o.machine = (m.steps k (n + 1)).machine := by
    rw [flushed.machine, machine_andThen_flush]
  obtain ⟨c, hc, made, there, ends⟩ := exists_endsAfter stops same flushed.result
  have entries : .event (.loaded size) :: o.log = LogEntry.event (.loaded size) ::
      .event .running :: ((m.statesBefore k (n + 1)).flatMap State.entries ++
        if o.machine.halted then [.event (.finished o.machine.state.cycles)] else []) := by
    rw [log, attemptsLog_eq_entries verbose trace, haltLog, options_steps, same]
    simp [Options.logEvent, verbose]
  refine ⟨n + 1, c, stops, same, ?_, ?_, ?_, entries, ?_, ?_⟩
  · intro i hi
    rw [← moves_iff_executes]
    exact made i hi
  · rw [there]
    exact toNat_cycles_steps zero fun i hi => (made i (by omega)).2 hi
  · rw [same]
    exact stops.halted_iff
  · rw [entries]
    exact map_line_account size _ _
  · have before := stops.going n (by omega)
    rw [entries, countP_account _ _ _ _ rfl rfl rfl, countP_account _ _ _ _ rfl rfl rfl,
      countP_isTrace_statesBefore, countP_statesBefore_succ,
      countP_isExecuting_of_moves fun i hi => before.moves hi]
    exact ends

/-- The log of a load and the run after it is an account of that run, if everything is logged: the
loading, the beginning of the run, then for every attempt the snapshot of the state before it with
the instruction there, if there is one, and the halt if one was executed; all of them are lines with
the values in them, and all but the snapshots are stamped with the time. The log has a snapshot for
each instruction that was executed and one more if an instruction failed, and it has as many
instructions as snapshots, unless there was no instruction where the run failed. -/
theorem log_is_an_account {image : List UInt8} {o : Outcome σ}
    (verbose : m.options.verbose = true) (trace : m.options.trace = true)
    (loaded : (m.load image k).result = .ok ()) (ran : (m.load image k).machine.run k = some o) :
    ∃ n c,
      (m.load image k).machine.Account k o image.length ((m.load image k).log ++ o.log) n c := by
  have fits : image.length ≤ Memory.size := by
    by_contra large
    simp [load_of_gt (Nat.not_le.1 large)] at loaded
  let start : Machine := m.withState (.start (Memory.zero.overlay image))
  have made : m.load image k =
      ⟨.ok (), start, k, [.event (.loaded image.length)]⟩ := by
    rw [load_of_le fits, note, Options.logEvent, options_withState, if_pos verbose]
  rw [made] at ran ⊢
  exact exists_account (m := start) verbose trace rfl rfl ran image.length

/-- A machine that logs everything, with a program that prints a register and then pops into one
that does not exist. -/
def printsThenPopsNowhere : Outcome LineSink :=
  (new ⟨true, true, false⟩).load [0x82, 0, 5, 0x47, 0, 0x46, 9] .unlimited

/-- Two instructions are executed, and a third one is logged with them. -/
theorem printsThenPopsNowhere_is_told :
    ∃ o, printsThenPopsNowhere.machine.run LineSink.unlimited = some o ∧
      o.result = .error (.invalidRegister 9) ∧
      renderLog "noon" (printsThenPopsNowhere.log ++ o.log) =
        "[noon] -- [vm] Loaded 7 byte program\n" ++ "[noon] -- [vm] Running\n" ++
        "TRACE: 00 | 82 00 05 | 00 00 00 00 00 00 00 F4\n" ++ "[noon] -- [cpu] 00  LDI R0,5\n" ++
        "TRACE: 03 | 47 00 46 | 05 00 00 00 00 00 00 F4\n" ++ "[noon] -- [cpu] 03  PRN R0\n" ++
        "TRACE: 05 | 46 09 00 | 05 00 00 00 00 00 00 F4\n" ++ "[noon] -- [cpu] 05  POP R9\n" ∧
      (printsThenPopsNowhere.log ++ o.log).countP LogEntry.isExecuting = 3 ∧
      (printsThenPopsNowhere.log ++ o.log).countP LogEntry.isTrace = 3 ∧
      ∃ n, printsThenPopsNowhere.machine.Account .unlimited o 7 (printsThenPopsNowhere.log ++ o.log)
        n 2 := by
  let m : Machine := printsThenPopsNowhere.machine
  have failed : (m.stepUpTo 3 LineSink.unlimited).result = .error (.invalidRegister 9) := by
    decide +kernel
  let o := ((m.stepUpTo 3 LineSink.unlimited).logAfter (m.options.logEvent .running)).andThen flush
  have ran : m.run LineSink.unlimited = some o := by
    rw [run_eq, runToHalt_eq_some_iff.2 ⟨3, rfl, .inr (by simp [failed])⟩, Option.map_some]
  have result : o.result = .error (.invalidRegister 9) := by decide +kernel
  have instructions : (printsThenPopsNowhere.log ++ o.log).countP LogEntry.isExecuting = 3 := by
    decide +kernel
  have snapshots : (printsThenPopsNowhere.log ++ o.log).countP LogEntry.isTrace = 3 := by
    decide +kernel
  obtain ⟨n, c, account⟩ :
      ∃ n c, m.Account .unlimited o 7 (printsThenPopsNowhere.log ++ o.log) n c :=
    log_is_an_account (m := new ⟨true, true, false⟩) rfl rfl rfl ran
  have ends := account.ends
  rw [instructions, snapshots] at ends
  obtain rfl : c = 2 := by
    cases ends with
    | halted _ hr => simp [result] at hr
    | invalidRegister => rfl
    | lineRefused => rfl
  refine ⟨o, ran, result, ?_, instructions, snapshots, n, account⟩
  decide +kernel

end Machine

end ByteMachine
