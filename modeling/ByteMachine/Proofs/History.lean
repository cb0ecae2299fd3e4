import ByteMachine.Proofs.Steps

/-!
# Histories

A machine does not remember what it has executed. A history keeps it beside the machine: the
instructions that have succeeded since the last image was loaded, or since the machine was made,
each with the address at which it stood. Loading begins anew, whether or not the image is accepted;
a step adds its instruction, unless it fails or finds the machine halted; and a run adds the
instructions of its steps. Calls that come to an end have a history, and what loading establishes
and every executed instruction keeps holds of it (`History.ByCalls.keeps`).
-/
namespace ByteMachine

/-- An instruction that has been executed, and the address at which it stood. -/
structure Executed where
  address : UInt8
  instruction : Instruction
  deriving DecidableEq, Repr

/-- A machine, and what it has executed since the last load. -/
structure History where
  machine : Machine
  executed : List Executed

/-! ## What steps execute -/

namespace Machine

variable {σ : Type} [Sink σ] {m : Machine} {k : σ} {n : Nat} {e : Executed}

/-- What a step executes: the instruction at the program counter, unless the machine has halted or
the step fails. -/
def executed? (m : Machine) (k : σ) : Option Executed :=
  if m.halted then none
  else
    match (m.step k).result, m.state.fetch with
    | .ok (), .ok i => some ⟨m.state.pc, i⟩
    | _, _ => none

/-- What up to `n` steps execute, one after the other. -/
def executedBy : Nat → Machine → σ → List Executed
  | 0, _, _ => []
  | n + 1, m, k =>
    match m.executed? k with
    | none => []
    | some e => e :: executedBy n (m.step k).machine (m.step k).sink

/-- A step that is made executes an instruction. -/
structure Executes (m : Machine) (k : σ) (e : Executed) : Prop extends Moves m k where
  address : e.address = m.state.pc
  fetched : m.state.fetch = .ok e.instruction

theorem exists_executes (h : m.Moves k) : ∃ e, m.executed? k = some e ∧ m.Executes k e := by
  obtain ⟨i, u, hf, -⟩ := (State.next_eq_ok_iff h.running).1 h.next
  exact ⟨⟨m.state.pc, i⟩, by simp [executed?, h.running, h.succeeds, hf], h, rfl, hf⟩

theorem executes_of_executed? (h : m.executed? k = some e) : m.Executes k e := by
  by_cases halted : m.halted = true
  · simp [executed?, halted] at h
  have running : m.halted = false := by simpa using halted
  rcases hr : (m.step k).result with fault | ⟨⟩
  · simp [executed?, running, hr] at h
  obtain ⟨e', he', executes⟩ := exists_executes (moves_of_ok running hr)
  obtain rfl : e' = e := Option.some.inj (he'.symm.trans h)
  exact executes

/-- A step that executes nothing leaves the machine where it is. -/
theorem machine_step_of_executed? (h : m.executed? k = none) : (m.step k).machine = m := by
  rcases m.moves_or_stays k with moves | stays
  · obtain ⟨e, he, -⟩ := exists_executes moves
    simp [h] at he
  · exact stays

/-- Steps on a budget stop where they execute nothing. -/
theorem machine_stepUpTo_of_executed? (h : m.executed? k = none) (n : Nat) :
    (m.stepUpTo n k).machine = m := by
  cases n with
  | zero => rfl
  | succ n =>
    by_cases halted : m.halted = true
    · rw [stepUpTo_of_halted halted]
      rfl
    rw [stepUpTo_succ, if_neg halted]
    rcases hr : (m.step k).result with fault | ⟨⟩
    · rw [Outcome.andThen_of_error hr, machine_step_of_executed? h]
    · obtain ⟨e, he, -⟩ := exists_executes (moves_of_ok (by simpa using halted) hr)
      simp [h] at he

theorem machine_stepUpTo_of_executes (h : m.Executes k e) (n : Nat) :
    (m.stepUpTo (n + 1) k).machine =
      ((m.step k).machine.stepUpTo n (m.step k).sink).machine := by
  rw [stepUpTo_succ, if_neg (by simp [h.running]), Outcome.andThen_of_ok h.succeeds,
    Outcome.machine_logAfter]

/-! ## What becomes of a machine by calls -/

omit [Sink σ] in
/-- The machine after calls that have come to the given outcomes. -/
def after (m : Machine) (os : List (Outcome σ)) : Machine := os.foldl (fun _ o => o.machine) m

theorem machine_andThen_flush (o : Outcome σ) : (o.andThen flush).machine = o.machine := by
  rcases hr : o.result with fault | ⟨⟩
  · rw [Outcome.andThen_of_error hr]
  · rw [Outcome.andThen_of_ok hr, Outcome.machine_logAfter, machine_flush]

/-- A run takes the machine where steps take it that stop. -/
theorem run_of_stopped (h : (m.stepUpTo n k).Stopped) :
    ∃ o, m.run k = some o ∧ o.machine = (m.stepUpTo n k).machine := by
  refine ⟨_, run_eq_some_iff.2 ⟨n, h, rfl⟩, ?_⟩
  rw [machine_andThen_flush, Outcome.machine_logAfter]

theorem stopped_of_run {o : Outcome σ} (h : m.run k = some o) :
    ∃ n, (m.stepUpTo n k).Stopped := by
  obtain ⟨n, stopped, -⟩ := run_eq_some_iff.1 h
  exact ⟨n, stopped⟩

end Machine

/-! ## Histories of calls -/

namespace History

variable {σ : Type} [Sink σ] {h h' : History} {calls : List (Call × σ)}

/-- The history of a machine that has just been made. -/
def new (options : Options) : History := ⟨.new options, []⟩

/-- What one call makes of a history. -/
inductive ByCall : Call → σ → History → History → Prop
  | load (image : List UInt8) (k : σ) (h : History) :
      ByCall (.load image) k h ⟨(h.machine.load image k).machine, []⟩
  | step (k : σ) (h : History) :
      ByCall .step k h
        ⟨(h.machine.step k).machine, h.executed ++ (h.machine.executed? k).toList⟩
  | run {k : σ} {h : History} {o : Outcome σ} {n : Nat} (ran : h.machine.run k = some o)
      (stopped : (h.machine.stepUpTo n k).Stopped) :
      ByCall .run k h ⟨o.machine, h.executed ++ h.machine.executedBy n k⟩

/-- What calls make of a history, one after the other. -/
inductive ByCalls : List (Call × σ) → History → History → Prop
  | nil (h : History) : ByCalls [] h h
  | cons {c : Call} {k : σ} {calls : List (Call × σ)} {h h' h'' : History}
      (first : ByCall c k h h') (rest : ByCalls calls h' h'') : ByCalls ((c, k) :: calls) h h''

/-- A call that comes to an end has a history. -/
theorem exists_byCall {c : Call} {k : σ} {o : Outcome σ}
    (ho : c.perform h.machine k = some o) : ∃ es, ByCall c k h ⟨o.machine, es⟩ := by
  cases c with
  | load image =>
    obtain rfl := Option.some.inj ho
    exact ⟨_, .load image k h⟩
  | step =>
    obtain rfl := Option.some.inj ho
    exact ⟨_, .step k h⟩
  | run =>
    obtain ⟨n, stopped⟩ := Machine.stopped_of_run ho
    exact ⟨_, .run ho stopped⟩

theorem ByCall.machine_eq {c : Call} {k : σ} {o : Outcome σ} (hc : ByCall c k h h')
    (ho : c.perform h.machine k = some o) : h'.machine = o.machine := by
  cases hc with
  | load image => exact congrArg Outcome.machine (Option.some.inj ho)
  | step => exact congrArg Outcome.machine (Option.some.inj ho)
  | run ran => exact congrArg Outcome.machine (Option.some.inj (ran.symm.trans ho))

/-- Calls that come to an end have a history. -/
theorem exists_byCalls {os : List (Outcome σ)} (ho : Machine.outcomes calls h.machine = some os) :
    ∃ h', ByCalls calls h h' := by
  induction calls generalizing h os with
  | nil => exact ⟨h, .nil h⟩
  | cons call calls ih =>
    obtain ⟨o, hp, hrest⟩ := Option.bind_eq_some_iff.1 ho
    obtain ⟨ps, hps, -⟩ := Option.map_eq_some_iff.1 hrest
    obtain ⟨es, first⟩ := exists_byCall hp
    obtain ⟨h', rest⟩ := ih (h := ⟨o.machine, es⟩) hps
    exact ⟨h', .cons first rest⟩

/-- A history is that of the machine after the calls. -/
theorem ByCalls.machine_eq {os : List (Outcome σ)} (hc : ByCalls calls h h')
    (ho : Machine.outcomes calls h.machine = some os) : h'.machine = h.machine.after os := by
  induction hc generalizing os with
  | nil h =>
    obtain rfl := Option.some.inj ho
    rfl
  | cons first rest ih =>
    obtain ⟨o, hp, hrest⟩ := Option.bind_eq_some_iff.1 ho
    obtain ⟨ps, hps, rfl⟩ := Option.map_eq_some_iff.1 hrest
    have here := first.machine_eq hp
    rw [ih (here ▸ hps), here]
    rfl

/-! ## What is kept -/

section Keeps

variable {P : History → Prop}
  (executes : ∀ (m : Machine) (es : List Executed) (k : σ) (e : Executed), P ⟨m, es⟩ →
    m.Executes k e → P ⟨(m.step k).machine, es ++ [e]⟩)

include executes

theorem keeps_step {m : Machine} {es : List Executed} (hp : P ⟨m, es⟩) (k : σ) :
    P ⟨(m.step k).machine, es ++ (m.executed? k).toList⟩ := by
  rcases he : m.executed? k with _ | e
  · rw [Machine.machine_step_of_executed? he, Option.toList_none, List.append_nil]
    exact hp
  · exact executes m es k e hp (Machine.executes_of_executed? he)

theorem keeps_stepUpTo (n : Nat) {m : Machine} {es : List Executed} (hp : P ⟨m, es⟩) (k : σ) :
    P ⟨(m.stepUpTo n k).machine, es ++ m.executedBy n k⟩ := by
  induction n generalizing m es k with
  | zero => simpa [Machine.executedBy, Outcome.done] using hp
  | succ n ih =>
    rw [Machine.executedBy]
    rcases he : m.executed? k with _ | e
    · rw [Machine.machine_stepUpTo_of_executed? he]
      simpa using hp
    · have made := Machine.executes_of_executed? he
      have there := ih (executes m es k e hp made) (m.step k).sink
      rw [Machine.machine_stepUpTo_of_executes made]
      simpa using there

/-- What loading establishes and every executed instruction keeps is kept by calls. -/
theorem ByCalls.keeps (load : ∀ (m : Machine) (image : List UInt8) (k : σ),
    P ⟨(m.load image k).machine, []⟩) (hc : ByCalls calls h h') (hp : P h) : P h' := by
  induction hc with
  | nil h => exact hp
  | @cons c k calls h h' h'' first _ ih =>
    refine ih ?_
    cases first with
    | load image => exact load h.machine image k
    | step => exact keeps_step executes hp k
    | run ran stopped =>
      obtain ⟨p, hr, same⟩ := Machine.run_of_stopped stopped
      rw [Option.some.inj (ran.symm.trans hr), same]
      exact keeps_stepUpTo executes _ hp k

end Keeps

end History

end ByteMachine
