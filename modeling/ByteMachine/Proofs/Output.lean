import ByteMachine.Proofs.Account
import ByteMachine.Proofs.Budget
import ByteMachine.Proofs.LineSink

/-!
# What is printed

Nothing but a print instruction that succeeds writes to the sink, and what it writes is the line of
the value in its register. So with a sink that takes everything, the text that steps or a run leave
behind tells the values that they have printed, in their order and without a doubt: its lines are
the numerals of the values, and read as numbers they are the values again.
-/
namespace ByteMachine

/-! ## Reading what is written -/

/-- The numbers on the lines of a text, if all of them are decimal numerals. What is behind the last
line end is not a line. -/
def readNumbers (text : String) : Option (List Nat) :=
  (text.toList.splitOn '\n').dropLast.mapM (Numeral.value? 10)

/-- The text tells the values: it has a line with the shortest decimal numeral for each of them,
reading the lines gives them back, and no other values have the same lines. -/
structure Tells (text : String) (vs : List UInt8) : Prop where
  lines : text = String.join (vs.map fun v => toString v.toNat ++ "\n")
  shortest : ∀ v ∈ vs, (toString v.toNat).toList.head? = some '0' → v = 0
  read : readNumbers text = some (vs.map UInt8.toNat)
  only : ∀ us : List UInt8, text = String.join (us.map fun u => toString u.toNat ++ "\n") → us = vs

theorem printedLine_eq (v : UInt8) : printedLine v = toString v.toNat ++ "\n" := by
  have same : Numeral.decimal v.toNat = toString v.toNat := by
    rw [Numeral.decimal, Numeral.digits_of_le_ten (by omega) (by omega)]
    rfl
  rw [printedLine, same]

theorem printedText_eq_join (vs : List UInt8) :
    printedText vs = String.join (vs.map fun v => toString v.toNat ++ "\n") := by
  induction vs with
  | nil => rfl
  | cons v vs ih => rw [printedText_cons, List.map_cons, String.join_cons, ih, printedLine_eq]

theorem readNumbers_printedText (vs : List UInt8) :
    readNumbers (printedText vs) = some (vs.map UInt8.toNat) := by
  have numbers : (numerals vs).mapM (Numeral.value? 10) = some (vs.map UInt8.toNat) := by
    induction vs with
    | nil => rfl
    | cons v vs ih =>
      have first : Numeral.value? 10 (Numeral.digits 10 v.toNat) = some v.toNat :=
        Numeral.value?_digits (by omega) (by omega) v.toNat
      rw [numerals, List.map_cons, List.mapM_cons, first, ← numerals, ih]
      rfl
  rw [readNumbers, (hasLines_printedText vs).splitOn_eq, List.dropLast_concat, numbers]

theorem tells_printedText (vs : List UInt8) : Tells (printedText vs) vs where
  lines := printedText_eq_join vs
  shortest := by
    have shortest : ∀ n < 256, (Nat.toDigits 10 n).head? = some '0' → n = 0 := by decide +kernel
    intro v _ zero
    have head : (Nat.toDigits 10 v.toNat).head? = some '0' := by simpa [toString] using zero
    exact UInt8.toNat_inj.1 (shortest v.toNat v.toNat_lt head)
  read := readNumbers_printedText vs
  only := by
    intro us same
    rw [← printedText_eq_join] at same
    exact (printedText_injective same).symm

namespace Machine

variable {σ : Type} [Sink σ] {m : Machine} {v : UInt8} {k : σ}

/-! ## What a step prints -/

/-- The value that a step prints: what is in the register that a print instruction names, if that is
what the step executes. -/
def prints? (m : Machine) (k : σ) : Option UInt8 :=
  match m.executed? k with
  | some ⟨_, .print source⟩ => (m.state.registers.get source).toOption
  | _ => none

/-- The values that `n` steps print, in the order in which they are made. -/
def printedIn (m : Machine) (k : σ) (n : Nat) : List UInt8 :=
  (List.range n).filterMap fun i => (m.steps k i).machine.prints? (m.steps k i).sink

/-- A step prints a value: the step is made, and the value is in the register that the print
instruction names. -/
structure Prints (m : Machine) (k : σ) (v : UInt8) : Prop where
  running : m.halted = false
  succeeds : (m.step k).result = .ok ()
  opcode : m.state.code 0 = 0x47
  value : ∃ r : Register, r.val = (m.state.code 1).toNat ∧ m.state.registers.read r = v

/-- A step that is made prints what its state is about to print. -/
theorem prints?_of_ok (running : m.halted = false) (ok : (m.step k).result = .ok ()) :
    m.prints? k = m.state.printed? := by
  have running' : m.state.halted = false := running
  rcases hf : m.state.fetch with fault | i
  · simp [prints?, executed?, State.printed?, running, running', ok, hf]
  · cases i <;>
      simp [prints?, executed?, State.printed?, Instruction.printed?, running, running', ok, hf]

theorem prints?_eq_some_iff : m.prints? k = some v ↔ m.Prints k v := by
  by_cases halted : m.halted = true
  · have silent : m.prints? k = none := by simp [prints?, executed?, halted]
    have idle : ¬m.Prints k v := fun h => absurd halted (by simp [h.running])
    simp [silent, idle]
  have running : m.halted = false := by simpa using halted
  rcases hr : (m.step k).result with fault | ⟨⟩
  · have silent : m.prints? k = none := by simp [prints?, executed?, running, hr]
    have fails : ¬m.Prints k v := fun h => absurd h.succeeds (by simp [hr])
    simp [silent, fails]
  rw [prints?_of_ok running hr, State.printed?_eq_some_iff]
  constructor
  · rintro ⟨-, source, r, hf, hr', value⟩
    obtain ⟨opcode, rfl⟩ := State.fetch_eq_print_iff.1 hf
    exact ⟨running, hr, opcode, r, Register.ofByte_eq_ok_iff.1 hr', value⟩
  · rintro ⟨-, -, opcode, r, hr', value⟩
    exact ⟨running, _, r, State.fetch_eq_print_iff.2 ⟨opcode, rfl⟩,
      Register.ofByte_eq_ok_iff.2 hr', value⟩

/-- What a step prints is taken by its sink, as a line. -/
theorem write_of_prints (h : m.Prints k v) :
    Sink.write k (printedLine v) = (.ok (), (m.step k).sink) := by
  obtain ⟨s, -, -, hsink⟩ := step_ok_cases h.running h.succeeds
  have printed : m.state.printed? = some v := by
    rw [← prints?_of_ok h.running h.succeeds]
    exact prints?_eq_some_iff.2 h
  rw [printed] at hsink
  exact hsink

/-- A step that prints nothing leaves a sink alone that would have taken it, also if the step
fails. -/
theorem sink_step_of_not_prints (takes : ∀ text, (Sink.write k text).1 = .ok ())
    (h : m.prints? k = none) : (m.step k).sink = k := by
  rcases hp : m.state.printed? with _ | v
  · exact sink_step_of_silent hp k
  · have running : m.halted = false := (State.printed?_eq_some_iff.1 hp).1
    have ends := step_of_accepted running (State.next_of_printed? hp) hp (Prod.ext (takes _) rfl)
    rw [prints?_of_ok running ends.result, hp] at h
    exact absurd h (by simp)

/-- An instruction of another kind leaves every sink alone. -/
theorem sink_step_of_other (h : m.state.code 0 ≠ 0x47) (k : σ) : (m.step k).sink = k := by
  refine sink_step_of_silent ?_ k
  rcases hp : m.state.printed? with _ | v
  · rfl
  · obtain ⟨-, source, -, hf, -⟩ := State.printed?_eq_some_iff.1 hp
    exact absurd (State.fetch_eq_print_iff.1 hf).1 h

/-! ## What steps print -/

theorem printedIn_succ (m : Machine) (k : σ) (n : Nat) :
    m.printedIn k (n + 1) =
      m.printedIn k n ++ ((m.steps k n).machine.prints? (m.steps k n).sink).toList := by
  rw [printedIn, List.range_succ, List.filterMap_append]
  rcases hp : (m.steps k n).machine.prints? (m.steps k n).sink with _ | v <;> simp [printedIn, hp]

theorem sink_step_of_unlimited {k : LineSink} (h : k.room = none) :
    (m.step k).sink = k.taking (printedText (m.prints? k).toList) none := by
  rcases hp : m.prints? k with _ | v
  · have takes (text : String) : (Sink.write k text).1 = .ok () := by
      simp [Sink.write, h]
    rw [sink_step_of_not_prints takes hp, Option.toList_none, printedText_nil, ← h,
      LineSink.taking_empty]
  · have written := write_of_prints (prints?_eq_some_iff.1 hp)
    rw [LineSink.write_line_of_unlimited h] at written
    rw [← (Prod.mk.inj written).2, Option.toList_some, printedText_cons, printedText_nil,
      String.append_empty]

theorem sink_steps_of_unlimited {k : LineSink} (h : k.room = none) (n : Nat) :
    (m.steps k n).sink = k.taking (printedText (m.printedIn k n)) none := by
  induction n with
  | zero => exact (h ▸ k.taking_empty).symm
  | succ n ih =>
    have room : (m.steps k n).sink.room = none := by rw [ih, LineSink.room_taking]
    rw [steps_succ, sink_step_of_unlimited room, printedIn_succ, printedText_append,
      ← LineSink.taking_taking, ← ih]

/-! ## Steps that stop -/

theorem steps_of_staying {result : Except Fault Unit} (h : (m.step k).EndsIn result m k)
    (n : Nat) : (m.steps k (n + 1)).EndsIn result m k := by
  induction n with
  | zero => exact h
  | succ n ih =>
    rw [steps_succ, ih.machine, ih.sink]
    exact h

/-- With a sink that takes everything it makes no difference whether steps are gone on with when the
machine has halted or one of them has failed. -/
theorem stepUpTo_endsLike_steps (hk : Accepting k) (n : Nat) :
    (m.stepUpTo n k).EndsLike (m.steps k n) := by
  induction n generalizing m k with
  | zero => exact ⟨rfl, rfl, rfl⟩
  | succ n ih =>
    by_cases halted : m.halted = true
    · have stays := steps_of_staying (step_of_halted halted k) n
      rw [Outcome.EndsLike, stepUpTo_of_halted halted, stays.result, stays.machine, stays.sink]
      exact ⟨rfl, rfl, rfl⟩
    have running : m.halted = false := by simpa using halted
    rw [Outcome.EndsLike, stepUpTo_succ, if_neg halted]
    rcases hn : m.state.next with fault | s
    · have fails := step_of_next_error running hn k
      have stays := steps_of_staying fails n
      rw [stays.result, stays.machine, stays.sink]
      exact fails.andThen_of_error _
    · obtain ⟨k', ends, hk'⟩ := step_of_accepting hk running hn
      have shift := steps_shift ends.result n
      rw [ends.machine, ends.sink] at shift
      rw [shift.result, shift.machine, shift.sink]
      exact ends.andThen (ih hk')

/-- A run that ends has stopped after some number of steps, and all that is left is to flush the
sink if they have succeeded. -/
theorem exists_steps_of_run {o : Outcome σ} (ran : m.run k = some o) :
    ∃ n, m.StopsAfter k n ∧ o.EndsLike ((m.steps k n).andThen flush) := by
  by_cases halted : m.halted = true
  · obtain ⟨count, -, rfl⟩ := run_eq_some_iff.1 ran
    rw [stepUpTo_of_halted halted]
    exact ⟨0, ⟨nofun, .inl halted⟩, Outcome.EndsLike.andThen ⟨rfl, rfl, rfl⟩ flush⟩
  · obtain ⟨n, stops, flushed, -⟩ := exists_stopsAfter_of_run (by simpa using halted) ran
    exact ⟨n + 1, stops, flushed⟩

/-- A line sink that is flushed is as it was. -/
theorem sink_andThen_flush (o : Outcome LineSink) : (o.andThen flush).sink = o.sink := by
  rcases hr : o.result with fault | ⟨⟩
  · rw [Outcome.andThen_of_error hr]
  · rw [Outcome.andThen_of_ok hr, Outcome.sink_logAfter, sink_flush]
    exact LineSink.snd_flush o.sink

/-! ## The output of a machine -/

/-- The output is faithful and can be read back. From any state and with a sink that takes
everything, the text that any number of steps leave behind tells exactly the values that their print
instructions have found in their registers, one after the other. The same is true of steps that are
not gone on with after a halt or a failure, and of a run, which comes to its end with the last of
some number of steps. A step that does not print, be it that it does something else or that it
fails, writes nothing. -/
theorem output_tells_printed_values (m : Machine) :
    (∀ n, Tells (m.steps LineSink.unlimited n).sink.text (m.printedIn LineSink.unlimited n)) ∧
    (∀ n, Tells (m.stepUpTo n LineSink.unlimited).sink.text (m.printedIn LineSink.unlimited n)) ∧
    (∀ o, m.run LineSink.unlimited = some o →
      ∃ n, m.StopsAfter LineSink.unlimited n ∧
        o.machine = (m.steps LineSink.unlimited n).machine ∧
        Tells o.sink.text (m.printedIn LineSink.unlimited n)) ∧
    ∀ (σ : Type) [Sink σ] (k : σ),
      (∀ v, m.prints? k = some v ↔ m.Prints k v) ∧
      (m.state.code 0 ≠ 0x47 → (m.step k).sink = k) ∧
      (Accepting k → (∀ v, ¬m.Prints k v) → (m.step k).sink = k) := by
  have steps (n : Nat) : Tells (m.steps LineSink.unlimited n).sink.text
      (m.printedIn LineSink.unlimited n) := by
    have text : (m.steps LineSink.unlimited n).sink.text =
        printedText (m.printedIn LineSink.unlimited n) := by
      rw [sink_steps_of_unlimited rfl, LineSink.text_taking]
      exact String.empty_append
    rw [text]
    exact tells_printedText _
  refine ⟨steps, ?_, ?_, ?_⟩
  · intro n
    rw [(stepUpTo_endsLike_steps accepting_unlimited n).sink]
    exact steps n
  · intro o ran
    obtain ⟨n, stops, flushed⟩ := exists_steps_of_run ran
    refine ⟨n, stops, ?_, ?_⟩
    · rw [flushed.machine, machine_andThen_flush]
    · rw [flushed.sink, sink_andThen_flush]
      exact steps n
  · intro σ _ k
    refine ⟨fun v => prints?_eq_some_iff, fun other => sink_step_of_other other k, ?_⟩
    intro hk silent
    refine sink_step_of_not_prints hk.write (Option.eq_none_iff_forall_ne_some.2 ?_)
    intro v printed
    exact silent v (prints?_eq_some_iff.1 printed)

end Machine

end ByteMachine
