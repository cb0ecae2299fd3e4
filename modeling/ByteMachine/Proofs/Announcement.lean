import ByteMachine.Proofs.Account
import ByteMachine.Proofs.Numerals
import ByteMachine.Proofs.Transcript

/-!
# Announcements

The debugger shows what comes next, and what it shows is what the machine does. The instruction in
its line is the one that the next step logs, a fault in its line is the one that the next step
returns and that ends the session, and a machine that it shows to have halted stays where it is. The
snapshot that can be asked for is the one that the next step logs. All of this is told by single
lines, and to show them changes nothing.
-/
namespace ByteMachine

/-! ## Texts on one line -/

theorem newline_notMem_hexByte (b : UInt8) : '\n' ∉ (hexByte b).toList :=
  notMem_hexByte (by decide) b

theorem Fault.newline_notMem_illegalInstruction (b a : UInt8) :
    '\n' ∉ (illegalInstruction b a).message.toList := by
  have padded (base width n : Nat) (h1 : 1 < base) (hb : base ≤ 16) :
      '\n' ∉ Numeral.padded base width n :=
    Numeral.newline_notMem_padded h1 hb width n
  have told : (illegalInstruction b a).message = "illegal instruction 0b" ++
      Numeral.binary 8 b.toNat ++ " at address 0x" ++ Numeral.hex 2 a.toNat := rfl
  simp only [told, String.toList_append, List.mem_append, not_or, Numeral.toList_binary,
    Numeral.toList_hex]
  refine ⟨⟨⟨?_, padded 2 8 _ (by decide) (by decide)⟩, ?_⟩, padded 16 2 _ (by decide) (by decide)⟩
  · decide +kernel
  · decide +kernel

theorem Instruction.newline_notMem_text (i : Instruction) : '\n' ∉ i.text.toList := by
  have mnemonic : ∀ op : Opcode, '\n' ∉ op.mnemonic.toList := by
    intro op
    cases op <;> decide
  have decimal (n : Nat) : '\n' ∉ Numeral.digits 10 n :=
    Numeral.newline_notMem_digits (by decide) (by decide) n
  have register (index : UInt8) : '\n' ∉ (registerText index).toList := by
    simp [registerText, decimal]
  have operands : '\n' ∉ i.operandText.toList := by
    cases i <;> simp [operandText, decimal, register]
  simp [text, mnemonic, operands]

/-- The registers in a snapshot, each in two digits behind a space. -/
theorem Snapshot.toList_contents (vs : List UInt8) :
    (vs.foldr (fun v rest => " " ++ hexByte v ++ rest) "").toList =
      vs.flatMap fun v => ' ' :: (hexByte v).toList := by
  induction vs with
  | nil => rfl
  | cons v vs ih => simp [ih]

theorem Snapshot.newline_notMem_text (t : Snapshot) : '\n' ∉ t.text.toList := by
  have told : t.text = "TRACE: " ++ hexByte t.pc ++ " | " ++ hexByte t.first ++ " " ++
      hexByte t.second ++ " " ++ hexByte t.third ++ " |" ++
        t.registers.toList.foldr (fun v rest => " " ++ hexByte v ++ rest) "" := rfl
  simp [told, newline_notMem_hexByte, toList_contents]

namespace State

variable {s : State} {fault : Fault}

/-- Only a byte that stands for no opcode cannot be fetched. -/
theorem eq_of_fetch_error (h : s.fetch = .error fault) :
    fault = .illegalInstruction (s.memory.read s.pc) s.pc := by
  rw [fetch, Instruction.decode] at h
  cases ho : Opcode.ofByte? (s.memory.read s.pc) with
  | none => simpa [ho, eq_comm] using h
  | some op => simp [ho] at h

end State

namespace Debugger

variable {s : State} {fault : Fault} {i : Instruction}

theorem nextText_of_halted (h : s.halted = true) : nextText s = "halted at " ++ hexByte s.pc := by
  rw [nextText, if_pos h]

theorem nextText_of_fetch_ok (h : s.halted = false) (hf : s.fetch = .ok i) :
    nextText s = hexByte s.pc ++ "  " ++ i.text := by
  rw [nextText, if_neg (by simp [h]), hf]

theorem nextText_of_fetch_error (h : s.halted = false) (hf : s.fetch = .error fault) :
    nextText s = hexByte s.pc ++ "  " ++ fault.message := by
  rw [nextText, if_neg (by simp [h]), hf]

theorem newline_notMem_nextText (s : State) : '\n' ∉ (nextText s).toList := by
  by_cases halted : s.halted = true
  · rw [nextText_of_halted halted]
    simp [newline_notMem_hexByte]
  have running : s.halted = false := by simpa using halted
  cases hf : s.fetch with
  | ok i =>
    rw [nextText_of_fetch_ok running hf]
    simp [newline_notMem_hexByte, i.newline_notMem_text]
  | error fault =>
    rw [nextText_of_fetch_error running hf, State.eq_of_fetch_error hf]
    simp [newline_notMem_hexByte, Fault.newline_notMem_illegalInstruction]

end Debugger

/-! ## What a step logs -/

/-- The line that is logged of an instruction bears the mark of the processor. -/
theorem LogEntry.render_executing (stamp : String) (address : UInt8) (i : Instruction) :
    (event (.executing address i)).render stamp =
      "[" ++ stamp ++ "] -- [cpu] " ++ (hexByte address ++ "  " ++ i.text) ++ "\n" := by
  have line : (event (.executing address i)).render stamp =
      "[" ++ stamp ++ "] -- [" ++ "cpu" ++ "] " ++ (hexByte address ++ "  " ++ i.text) ++ "\n" :=
    rfl
  have mark : "] -- [cpu] " = "] -- [" ++ "cpu" ++ "] " := by decide
  rw [line, mark]
  simp only [String.append_assoc]

namespace Machine

variable {σ : Type} [Sink σ] {m : Machine} {i : Instruction}

theorem filter_haltLog {p : LogEntry → Bool} (h : ∀ cycles, p (.event (.finished cycles)) = false)
    (m : Machine) : m.haltLog.filter p = [] := by
  rw [haltLog, Options.logEvent]
  split_ifs <;> simp [h]

/-- A step logs one snapshot if snapshots are logged, be there an instruction or not. -/
theorem filter_isTrace_log_step (running : m.halted = false) (trace : m.options.trace = true)
    (k : σ) : (m.step k).log.filter LogEntry.isTrace = [.trace m.state.snapshot] := by
  rw [log_step running, List.filter_append, filter_haltLog (fun _ => rfl), attemptLog,
    Options.logTrace, if_pos trace]
  cases m.state.fetch with
  | error fault => rfl
  | ok i =>
    simp only [Options.logEvent]
    split_ifs <;> rfl

/-- A step logs the instruction at the program counter if events are logged. -/
theorem filter_isExecuting_log_step (running : m.halted = false) (hf : m.state.fetch = .ok i)
    (verbose : m.options.verbose = true) (k : σ) :
    (m.step k).log.filter LogEntry.isExecuting = [.event (.executing m.state.pc i)] := by
  rw [log_step running, List.filter_append, filter_haltLog (fun _ => rfl), attemptLog, hf]
  simp only [Options.logTrace, Options.logEvent, if_pos verbose]
  split_ifs <;> rfl

end Machine

/-! ## Displays -/

namespace Debugger

variable {σ : Type} [Sink σ] {o : Outcome σ} {m : Machine} {k : σ} {line : String} {fault : Fault}

/-- All that the operation does is to write a line to the sink. A line that is refused is a failure,
and the machine stays as it is. -/
structure Shows (o : Outcome σ) (m : Machine) (k : σ) (line : String) : Prop where
  written : o.EndsIn ((Sink.write k (line ++ "\n")).1.mapError .output) m
    (Sink.write k (line ++ "\n")).2
  inline : '\n' ∉ line.toList

theorem shows_say (m : Machine) (k : σ) (inline : '\n' ∉ line.toList) :
    Shows (m.say (line ++ "\n") k) m k line :=
  ⟨Machine.say_writes _ m k, inline⟩

theorem shows_showNext (m : Machine) (k : σ) : Shows (showNext m k) m k (nextText m.state) :=
  shows_say m k (newline_notMem_nextText m.state)

/-! ## A halted machine -/

theorem step_of_halted {arguments : List String} {count : Nat} (halted : m.halted = true)
    (h : numberOr 1 arguments[0]? = .ok count) (k : σ) :
    Shows (step arguments m k) m k (nextText m.state) := by
  rw [step, h]
  simp only
  rw [Machine.stepUpTo_of_halted halted, Outcome.done_andThen]
  exact shows_showNext m k

/-- A halted machine is not run, but the sink is flushed before the machine is shown. -/
theorem resume_of_halted (halted : m.halted = true) (k : σ) :
    ∃ o, resume m k = some o ∧ o.machine = m ∧
      ((Sink.flush k).1 = .ok () → Shows o m (Sink.flush k).2 (nextText m.state)) := by
  have ran : m.runToHalt k = some (.done m k) :=
    Machine.runToHalt_eq_some_iff.2 ⟨0, rfl, .inl halted⟩
  obtain ⟨p, flushed, like⟩ : ∃ p, m.run k = some p ∧ p.EndsLike (m.flush k) :=
    ⟨((Outcome.done m k).logAfter (m.options.logEvent .running)).andThen Machine.flush,
      by rw [Machine.run_eq, ran, Option.map_some], rfl, rfl, rfl⟩
  have stays : p.machine = m := like.machine.trans (Machine.machine_flush m k)
  refine ⟨p.andThen showNext, by rw [resume, flushed, Option.map_some], ?_, ?_⟩
  · cases hr : p.result with
    | error fault => rw [Outcome.andThen_of_error hr, stays]
    | ok =>
      rw [Outcome.andThen_of_ok hr, stays, Outcome.machine_logAfter]
      exact (shows_showNext m p.sink).written.machine
  · intro accepted
    have ends := Machine.flush_endsIn (m := m) accepted
    have made : p.result = .ok () := like.result.trans ends.result
    rw [Outcome.andThen_of_ok made, stays, like.sink, ends.sink]
    have shown := shows_showNext m (Sink.flush k).2
    exact ⟨shown.written.logAfter _, shown.inline⟩

/-! ## A machine without an instruction -/

/-- A request for steps ends at once, without a word, where the machine cannot make one. -/
theorem answer_of_next_error {request : Request} (asks : request.budget ≠ 0)
    (running : m.halted = false) (hn : m.state.next = .error fault) (k : σ) :
    ∃ o, answer request m k = some o ∧ o.EndsIn (.error fault) m k := by
  have steps (n : Nat) : (m.stepUpTo (n + 1) k).EndsIn (.error fault) m k := by
    rw [Machine.stepUpTo_succ, if_neg (by simp [running])]
    exact (Machine.step_of_next_error running hn k).andThen_of_error _
  cases request with
  | command c =>
    obtain ⟨verb, arguments⟩ := c
    cases verb with
    | step =>
      refine ⟨_, rfl, ?_⟩
      cases count : numberOr 1 arguments[0]? with
      | error c => exact absurd (Request.budget_step_of_error count) asks
      | ok n =>
        rw [Request.budget_step_of_ok count] at asks
        obtain ⟨n, rfl⟩ := Nat.exists_eq_succ_of_ne_zero (Nat.cast_ne_zero.1 asks)
        rw [step, count]
        exact (steps n).andThen_of_error _
    | resume =>
      obtain ⟨o, ran, ends⟩ := Machine.run_of_next_error running hn k
      refine ⟨o.andThen showNext, ?_, ends.andThen_of_error _⟩
      rw [answer, perform, resume, ran]
      rfl
    | _ => exact absurd rfl asks
  | _ => exact absurd rfl asks

theorem answerAll_of_next_error {request : Request} (asks : request.budget ≠ 0)
    (running : m.halted = false) (hn : m.state.next = .error fault) (requests : List Request)
    (k : σ) : ∃ o, answerAll (request :: requests) m k = some o ∧ o.EndsIn (.error fault) m k := by
  obtain ⟨o, answered, ends⟩ := answer_of_next_error asks running hn k
  refine ⟨o, ?_, ends⟩
  rw [answerAll_cons, answered]
  split_ifs
  · rfl
  · simp [Outcome.andThen?, ends.result]

/-- A session with a machine that cannot make a step ends with the first request for one. -/
theorem session_of_next_error {lines : List ScriptLine} (hk : Accepting k)
    (asks : budget lines ≠ 0) (running : m.halted = false) (hn : m.state.next = .error fault) :
    (session lines m k).map Outcome.ending = some (.error fault, m) := by
  have ends := Machine.step_of_next_error running hn k
  have one : ((0 + 1 : ℕ) : ℕ∞) ≤ budget lines := by
    simpa using Order.one_le_iff_ne_zero.2 asks
  obtain ⟨rest, spent, -⟩ := Machine.exists_eq_add_one one
  rw [ending_eq_some_iff hk hk, spent]
  have failed := Machine.EndsOn.failed running ends.result rest
  rwa [ends.machine] at failed

/-! ## What is announced -/

/-- What the debugger shows of a machine is what becomes of it. -/
structure Announces (m : Machine) (k : σ) : Prop where
  next : Shows (showNext m k) m k (nextText m.state)
  instruction : m.halted = false → ∀ i, m.state.fetch = .ok i →
    nextText m.state = hexByte m.state.pc ++ "  " ++ i.text ∧
    (m.options.verbose = true → ∀ stamp,
      ((m.step k).log.filter LogEntry.isExecuting).map (LogEntry.render stamp) =
        ["[" ++ stamp ++ "] -- [cpu] " ++ nextText m.state ++ "\n"])
  fault : m.halted = false → ∀ fault, m.state.fetch = .error fault →
    fault = .illegalInstruction (m.state.memory.read m.state.pc) m.state.pc ∧
    nextText m.state = hexByte m.state.pc ++ "  " ++ fault.message ∧
    (m.step k).EndsIn (.error fault) m k ∧
    (∀ request requests, Request.budget request ≠ 0 →
      ∃ o, answerAll (request :: requests) m k = some o ∧ o.EndsIn (.error fault) m k) ∧
    (Accepting k → ∀ lines, budget lines ≠ 0 →
      (session lines m k).map Outcome.ending = some (.error fault, m))
  snapshot : ∀ arguments, ∃ o, perform ⟨.trace, arguments⟩ m k = some o ∧
    Shows o m k m.state.snapshot.text
  traced : m.halted = false → m.options.trace = true → ∀ stamp,
    ((m.step k).log.filter LogEntry.isTrace).map (LogEntry.render stamp) =
      [m.state.snapshot.text ++ "\n"]
  halted : m.halted = true → nextText m.state = "halted at " ++ hexByte m.state.pc ∧
    (∀ arguments count, numberOr 1 arguments[0]? = .ok count →
      Shows (step arguments m k) m k (nextText m.state)) ∧
    ∃ o, resume m k = some o ∧ o.machine = m ∧
      ((Sink.flush k).1 = .ok () → Shows o m (Sink.flush k).2 (nextText m.state))

/-- What the debugger announces is what the machine does, whatever state it is in. -/
theorem announces_what_comes (m : Machine) (k : σ) : Announces m k where
  next := shows_showNext m k
  instruction := by
    intro running i hf
    refine ⟨nextText_of_fetch_ok running hf, ?_⟩
    intro verbose stamp
    rw [Machine.filter_isExecuting_log_step running hf verbose, List.map_singleton,
      LogEntry.render_executing, nextText_of_fetch_ok running hf]
  fault := by
    intro running fault hf
    have hn := State.next_of_fetch_error running hf
    refine ⟨State.eq_of_fetch_error hf, nextText_of_fetch_error running hf,
      Machine.step_of_next_error running hn k, ?_, ?_⟩
    · intro request requests asks
      exact answerAll_of_next_error asks running hn requests k
    · intro hk lines asks
      exact session_of_next_error hk asks running hn
  snapshot _ := ⟨_, rfl, shows_say m k m.state.snapshot.newline_notMem_text⟩
  traced := by
    intro running trace stamp
    rw [Machine.filter_isTrace_log_step running trace]
    rfl
  halted := by
    intro halted
    refine ⟨nextText_of_halted halted, ?_, resume_of_halted halted k⟩
    intro arguments count h
    exact step_of_halted halted h k

/-- A machine that logs everything, with an instruction at its start and none behind it. -/
def loadsThenFails : Machine := ((Machine.new ⟨true, true, false⟩).load [0x82, 0, 8, 0xFF] ()).machine

/-- The machine is announced at its start, behind its only instruction, and as if it had halted. -/
theorem loadsThenFails_is_announced :
    let k := LineSink.unlimited
    let m := loadsThenFails
    let failing := (m.step k).machine
    let halted := m.withState { m.state with halted := true }
    (showNext m k).sink.text = "00  LDI R0,8\n" ∧
    ((m.step k).log.filter LogEntry.isExecuting).map (LogEntry.render "noon") =
      ["[noon] -- [cpu] 00  LDI R0,8\n"] ∧
    (∃ o, perform ⟨.trace, []⟩ m k = some o ∧
      o.sink.text = "TRACE: 00 | 82 00 08 | 00 00 00 00 00 00 00 F4\n") ∧
    ((m.step k).log.filter LogEntry.isTrace).map (LogEntry.render "noon") =
      ["TRACE: 00 | 82 00 08 | 00 00 00 00 00 00 00 F4\n"] ∧
    (showNext failing k).sink.text = "03  illegal instruction 0b11111111 at address 0x03\n" ∧
    (failing.step k).EndsIn (.error (.illegalInstruction 0xFF 3)) failing k ∧
    (step ["2"] halted k).machine = halted ∧ (step ["2"] halted k).sink.text = "halted at 00\n" := by
  intro k m failing halted
  have written {o : Outcome LineSink} {n : Machine} {line : String} (shows : Shows o n k line) :
      o.sink.text = line ++ "\n" := by
    rw [shows.written.sink]
    exact String.empty_append
  have next : nextText m.state = "00  LDI R0,8" := by decide +kernel
  have snapshot : m.state.snapshot.text =
      "TRACE: 00 | 82 00 08 | 00 00 00 00 00 00 00 F4" := by decide +kernel
  have fetched : m.state.fetch = .ok (.load 0 8) := by decide +kernel
  have fault : failing.state.fetch = .error (.illegalInstruction 0xFF 3) := by decide +kernel
  have announced := announces_what_comes m k
  have announcedFault := announces_what_comes failing k
  have announcedHalt := announces_what_comes halted k
  refine ⟨?_, ?_, ?_, ?_, ?_, ?_, ?_, ?_⟩
  · rw [written announced.next, next]
    rfl
  · rw [(announced.instruction rfl _ fetched).2 rfl, next]
    rfl
  · obtain ⟨o, performed, shown⟩ := announced.snapshot []
    refine ⟨o, performed, ?_⟩
    rw [written shown, snapshot]
    rfl
  · rw [announced.traced rfl rfl, snapshot]
    rfl
  · rw [written announcedFault.next]
    decide +kernel
  · exact (announcedFault.fault (by decide +kernel) _ fault).2.2.1
  · exact ((announcedHalt.halted rfl).2.1 ["2"] 2 (by decide +kernel)).written.machine
  · rw [written ((announcedHalt.halted rfl).2.1 ["2"] 2 (by decide +kernel))]
    decide +kernel

/-- The operands of a load at the last address come from address 0 on. -/
example : nextText { State.start ((Memory.zero.overlay [3, 7]).write 0xFF 0x82) with pc := 0xFF } =
    "FF  LDI R3,7" := by
  decide +kernel

end Debugger

end ByteMachine
