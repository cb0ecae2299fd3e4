import ByteMachine.Proofs.History

/-!
# Halting

A machine stands halted exactly if it has executed a halt since it was last loaded, and then the
halt is the last thing that it has executed: it has counted nothing since, and the byte of the halt
is still there, right before the program counter. Nothing but a load gets it going again.
-/
namespace ByteMachine

namespace Machine

variable {σ : Type} [Sink σ] {m : Machine} {k : σ} {e : Executed}

/-! ## The instruction that is executed -/

theorem Executes.exists_effect (h : m.Executes k e) :
    ∃ u, e.instruction.effect m.state = .ok u ∧ (m.step k).machine.state = u.tick := by
  obtain ⟨i, u, hf, he, ht⟩ := (State.next_eq_ok_iff h.running).1 h.next
  obtain rfl : i = e.instruction := Except.ok.inj (hf.symm.trans h.fetched)
  exact ⟨u, he, ht.symm⟩

theorem Executes.cycles (h : m.Executes k e) :
    (m.step k).machine.state.cycles = m.state.cycles + 1 := by
  obtain ⟨u, he, ht⟩ := h.exists_effect
  rw [ht, State.tick, (Instruction.moves_of_effect he).1]

/-- A halt stays where it is and moves the program counter behind itself. -/
structure HaltsAt (m : Machine) (a : UInt8) : Prop where
  halted : m.halted = true
  pc : m.state.pc - 1 = a
  byte : m.state.memory.read a = Opcode.hlt.byte

theorem Executes.haltsAt (h : m.Executes k e) (halt : e.instruction = .halt) :
    (m.step k).machine.HaltsAt e.address := by
  obtain ⟨u, he, ht⟩ := h.exists_effect
  have fetched := h.fetched
  rw [halt] at he fetched
  obtain rfl := Except.ok.inj he
  obtain ⟨op, hop, hi⟩ := Instruction.decode_eq_ok_iff.1 fetched
  obtain rfl : op = .hlt := by
    have opcode := congrArg Instruction.opcode hi
    rwa [Instruction.opcode_ofOpcode] at opcode
  refine ⟨by rw [Machine.halted, ht]; rfl, ?_, ?_⟩
  · rw [ht, h.address]
    exact UInt8.add_sub_cancel _ _
  · rw [ht, h.address]
    exact hop.symm

/-- No other instruction halts. -/
theorem Executes.not_halted (h : m.Executes k e) (others : e.instruction ≠ .halt) :
    (m.step k).machine.halted = false := by
  obtain ⟨u, he, ht⟩ := h.exists_effect
  obtain ⟨op, hop, hi⟩ := Instruction.decode_eq_ok_iff.1 h.fetched
  have notHalt : op ≠ .hlt := by
    rintro rfl
    exact others hi.symm
  rw [← hi] at he
  obtain ⟨f, confined, kept, -⟩ := Opcode.exists_scope_of_turns (op.turns_of_effect he)
  rw [Machine.halted, ht, confined.halted (kept notHalt)]
  exact h.running

end Machine

/-! ## Histories of halted machines -/

namespace History

variable {σ : Type} [Sink σ] {h : History}

/-- The history accounts for the cycles, and for the halt if the machine has halted. -/
structure Accounts (h : History) : Prop where
  cycles : h.machine.state.cycles = UInt64.ofNat h.executed.length
  running : h.machine.halted = false → ∀ e ∈ h.executed, e.instruction ≠ .halt
  halted : h.machine.halted = true →
    ∃ a, h.executed.getLast? = some ⟨a, .halt⟩ ∧ h.machine.HaltsAt a

theorem accounts_start (options : Options) (memory : Memory) :
    Accounts ⟨⟨options, .start memory⟩, []⟩ where
  cycles := rfl
  running _ _ he := absurd he List.not_mem_nil
  halted absurdity := absurd absurdity Bool.false_ne_true

omit [Sink σ] in
theorem accounts_load (m : Machine) (image : List UInt8) (k : σ) :
    Accounts ⟨(m.load image k).machine, []⟩ := by
  by_cases fits : image.length ≤ Memory.size
  · rw [Machine.load_of_le fits]
    exact accounts_start m.options _
  · rw [Machine.load_of_gt (Nat.not_le.1 fits)]
    exact accounts_start m.options _

theorem accounts_executed (m : Machine) (es : List Executed) (k : σ) (e : Executed)
    (accounts : Accounts ⟨m, es⟩) (executes : m.Executes k e) :
    Accounts ⟨(m.step k).machine, es ++ [e]⟩ where
  cycles := by
    rw [executes.cycles, accounts.cycles, List.length_append, UInt64.ofNat_add]
    rfl
  running going := by
    intro e' he'
    rcases List.mem_append.1 he' with before | now
    · exact accounts.running executes.running e' before
    · obtain rfl := List.mem_singleton.1 now
      intro halt
      exact absurd (executes.haltsAt halt).halted (by simp [going])
  halted halted := by
    by_cases halt : e.instruction = .halt
    · refine ⟨e.address, ?_, executes.haltsAt halt⟩
      rw [List.getLast?_concat, ← halt]
    · exact absurd halted (by simp [executes.not_halted halt])

theorem ByCalls.accounts {calls : List (Call × σ)} {options : Options}
    (made : ByCalls calls (new options) h) : Accounts h :=
  made.keeps accounts_executed accounts_load (accounts_start options .zero)

theorem Accounts.halted_iff (accounts : Accounts h) :
    h.machine.halted = true ↔ ∃ e ∈ h.executed, e.instruction = .halt := by
  constructor
  · intro halted
    obtain ⟨a, last, -⟩ := accounts.halted halted
    exact ⟨_, List.mem_of_getLast? last, rfl⟩
  · rintro ⟨e, he, halt⟩
    by_contra going
    exact accounts.running (by simpa using going) e he halt

end History

/-! ## Calls on halted machines -/

namespace Machine

variable {σ : Type} [Sink σ] {m : Machine}

/-- A call leaves the machine as it is and writes nothing; all that it may do is flush the sink. -/
structure Idle (m : Machine) (call : Call × σ) (o : Outcome σ) : Prop where
  machine : o.machine = m
  sink : o.sink = call.2 ∨ call.1 = .run ∧ o.sink = (Sink.flush call.2).2

theorem idle_of_halted (halted : m.halted = true) {c : Call} (hc : c.loads = false) (k : σ) :
    ∃ o, c.perform m k = some o ∧ Idle m (c, k) o := by
  cases c with
  | load image => simp [Call.loads] at hc
  | step =>
    have ends := step_of_halted halted k
    exact ⟨_, rfl, ends.machine, .inl ends.sink⟩
  | run =>
    have stays : m.runToHalt k = some (.done m k) :=
      runToHalt_eq_some_iff.2 ⟨0, rfl, .inl halted⟩
    refine ⟨_, by rw [Call.perform, run_eq, stays, Option.map_some], ?_, .inr ⟨rfl, ?_⟩⟩
    · exact machine_andThen_flush _
    · rw [Outcome.andThen_of_ok (by rfl), Outcome.sink_logAfter]
      rcases hf : Sink.flush k with ⟨reason | ⟨⟩, k'⟩ <;> simp [flush, Outcome.done, hf]

theorem outcomes_of_halted (halted : m.halted = true) (calls : List (Call × σ))
    (hc : ∀ c ∈ calls, c.1.loads = false) :
    ∃ os, outcomes calls m = some os ∧ List.Forall₂ (Idle m) calls os := by
  refine outcomes_of_staying calls ?_
  intro c hin
  obtain ⟨o, ho, idle⟩ := idle_of_halted halted (hc c hin) c.2
  exact ⟨o, ho, idle.machine, idle⟩

/-- To stand halted is to have executed a halt. After any calls of a machine that was made with
nothing loaded, the machine is halted exactly if a halt is among the instructions that it has
executed since the last load. The halt is then the last of them, which are as many as have been
counted; its byte stands right before the program counter; and until the next load, steps and runs
into whatever sinks leave the machine as it is and write nothing. -/
theorem halted_iff_executed_halt {calls : List (Call × σ)} {os : List (Outcome σ)}
    {options : Options} (ho : outcomes calls (.new options) = some os) :
    (∃ h, History.ByCalls calls (.new options) h) ∧
      ∀ h, History.ByCalls calls (.new options) h →
        h.machine = (new options).after os ∧
        (h.machine.halted = true ↔ ∃ e ∈ h.executed, e.instruction = .halt) ∧
        (h.machine.halted = true →
          h.machine.state.memory.read (h.machine.state.pc - 1) = 0x01 ∧
          h.executed.getLast? = some ⟨h.machine.state.pc - 1, .halt⟩ ∧
          h.machine.state.cycles.toNat = h.executed.length % UInt64.size ∧
          ∀ (τ : Type) [Sink τ] (later : List (Call × τ)), (∀ c ∈ later, c.1.loads = false) →
            ∃ ps, outcomes later h.machine = some ps ∧
              List.Forall₂ (Idle h.machine) later ps) := by
  refine ⟨History.exists_byCalls ho, ?_⟩
  intro h made
  have accounts := made.accounts
  refine ⟨made.machine_eq ho, accounts.halted_iff, ?_⟩
  intro halted
  obtain ⟨a, last, haltsAt⟩ := accounts.halted halted
  refine ⟨?_, ?_, ?_, ?_⟩
  · rw [haltsAt.pc, haltsAt.byte]
    rfl
  · rw [haltsAt.pc, last]
  · rw [accounts.cycles, UInt64.toNat_ofNat']
  · intro τ _ later hc
    exact outcomes_of_halted halted later hc

/-- A program that jumps to a halt at the last address. -/
def haltsAtTop : List UInt8 := [0x82, 0, 0xFF, 0x54, 0] ++ List.replicate 250 0 ++ [0x01]

/-- An image is refused, then the program is loaded, stepped once and run. -/
def stepsToTop : List (Call × LineSink) :=
  [(.load (List.replicate 257 0), .unlimited), (.load haltsAtTop, .unlimited), (.step, .unlimited),
    (.run, .unlimited)]

/-- The program counter has gone round to address 0, and the halt is right before it. -/
theorem stepsToTop_executed_halt :
    ∃ h, History.ByCalls stepsToTop (.new ⟨true, false, false⟩) h ∧ h.machine.state.pc = 0 ∧
      (∃ e ∈ h.executed, e.instruction = .halt) ∧ h.executed.getLast? = some ⟨0xFF, .halt⟩ ∧
      h.machine.state.memory.read 0xFF = 0x01 := by
  let stepped (large small : List UInt8) : Machine :=
    ((((new ⟨true, false, false⟩).load large LineSink.unlimited).machine.load small
      LineSink.unlimited).machine.step LineSink.unlimited).machine
  have outcomes_eq (large small : List UInt8) (o : Outcome LineSink)
      (ran : (stepped large small).run LineSink.unlimited = some o) :
      ∃ o₁ o₂ o₃, outcomes [(.load large, LineSink.unlimited), (.load small, .unlimited),
        (.step, .unlimited), (.run, .unlimited)] (.new ⟨true, false, false⟩) =
          some [o₁, o₂, o₃, o] :=
    ⟨_, _, _, by rw [outcomes_cons (c := .load large) rfl, outcomes_cons (c := .load small) rfl,
      outcomes_cons (c := .step) rfl, outcomes_cons (c := .run) ran]; rfl⟩
  let m : Machine := stepped (List.replicate 257 0) haltsAtTop
  obtain ⟨halted, pc⟩ : (m.stepUpTo 2 LineSink.unlimited).machine.halted = true ∧
      (m.stepUpTo 2 LineSink.unlimited).machine.state.pc = 0 := by decide +kernel
  obtain ⟨o, ran, same⟩ := run_of_stopped (m := m) (.inl halted)
  obtain ⟨o₁, o₂, o₃, ho⟩ := outcomes_eq _ _ o ran
  replace ho : outcomes stepsToTop (.new ⟨true, false, false⟩) = some [o₁, o₂, o₃, o] := ho
  obtain ⟨⟨h, made⟩, told⟩ := halted_iff_executed_halt ho
  obtain ⟨there, executed, tells⟩ := told h made
  have here : h.machine = (m.stepUpTo 2 LineSink.unlimited).machine := there.trans same
  rw [here] at executed tells
  obtain ⟨byte, last, -⟩ := tells halted
  rw [pc] at byte last
  refine ⟨h, made, ?_, executed.1 halted, last, ?_⟩
  · rw [here, pc]
  · rw [here]
    exact byte

end Machine

end ByteMachine
