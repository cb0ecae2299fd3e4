import Mathlib.Algebra.GroupWithZero.Nat
import Mathlib.Data.List.SplitLengths
import ByteMachine.Proofs.Calls
import ByteMachine.Proofs.LineSink

/-!
# Runs into limited sinks

A run whose sink fills up stops right before the instruction that prints the next line, and nothing
of this line has been taken. So another run goes on where the first one had to stop: no line is
printed twice and none is left out, however the lines are spread over sinks.
-/
namespace ByteMachine.Machine

variable {m : Machine} {w : Walk}

/-- The next instruction of the machine prints a value. -/
def AboutToPrint (m : Machine) (v : UInt8) : Prop :=
  ∃ source, m.state.fetch = .ok (.print source) ∧ m.state.registers.get source = .ok v

/-- Steps of the machine print some values and lead to a machine that is about to print another. -/
structure StopsBefore (m : Machine) (us : List UInt8) (v : UInt8) (p : Machine) : Prop where
  reached : ∃ n, (m.stepUpTo n LineSink.unlimited).EndsIn (.ok ()) p
    (LineSink.unlimited.taking (printedText us) none)
  running : p.halted = false
  next : p.AboutToPrint v

theorem aboutToPrint_of_printed? {v : UInt8} (h : m.state.printed? = some v) :
    m.AboutToPrint v := by
  obtain ⟨-, source, r, hf, hr, rfl⟩ := State.printed?_eq_some_iff.1 h
  exact ⟨source, hf, by rw [Registers.get, hr]; rfl⟩

theorem stopsBefore_of_walk {i : Nat} {us : List UInt8} {v : UInt8}
    (printed : (m.state.walk i).printed = us) (going : ¬(m.state.walk i).Stopped)
    (value : (m.state.walk i).state.printed? = some v) :
    m.StopsBefore us v (m.withState (m.state.walk i).state) := by
  obtain ⟨running, hr⟩ := Walk.not_stopped_iff.1 going
  have taken : deliver (m.state.walk i).printed LineSink.unlimited =
      (.ok (), LineSink.unlimited.taking (printedText us) none) := by
    rw [printed, LineSink.deliver_of_unlimited rfl]
  have there := stepUpTo_of_delivered taken
  rw [hr] at there
  exact ⟨⟨i, there⟩, running, aboutToPrint_of_printed? value⟩

/-! ## One run -/

theorem run_unlimited (h : m.state.Finishes w) :
    ∃ o, m.run LineSink.unlimited = some o ∧ o.result = w.result ∧
      o.machine = m.withState w.state ∧ o.sink.text = printedText w.printed := by
  obtain ⟨o, ho, ends⟩ :=
    LineSink.run_of_taken rfl h (LineSink.deliver_of_unlimited (k := .unlimited) rfl w.printed)
  refine ⟨o, ho, ends.result, ends.machine, ?_⟩
  rw [ends.sink]
  exact String.empty_append

theorem finishes_of_run_unlimited {o : Outcome LineSink} (h : m.run LineSink.unlimited = some o) :
    ∃ w, m.state.Finishes w ∧ o.result = w.result ∧ o.machine = m.withState w.state ∧
      o.sink.text = printedText w.printed := by
  have taken (vs : List UInt8) : (deliver vs LineSink.unlimited).1 = .ok () := by
    rw [LineSink.deliver_of_unlimited rfl]
  obtain ⟨o', ho', -⟩ := Option.map_eq_some_iff.1 (run_eq m LineSink.unlimited ▸ h)
  obtain ⟨w, hw⟩ := finishes_of_runToHalt taken ho'
  obtain ⟨p, hp, ends⟩ := run_unlimited hw
  obtain rfl : p = o := Option.some.inj (hp.symm.trans h)
  exact ⟨w, hw, ends⟩

/-- A run whose lines all fit ends as if there were no limit. -/
theorem run_of_room {r : Nat} (h : m.state.Finishes w) (hr : w.printed.length ≤ r) :
    ∃ p, m.run (LineSink.new (some r) false) = some p ∧ p.result = w.result ∧
      p.machine = m.withState w.state ∧ p.sink.text = printedText (w.printed.take r) := by
  have taken := LineSink.deliver_of_room (k := LineSink.new (some r) false) rfl w.printed
  rw [if_pos hr] at taken
  obtain ⟨p, hp, ends⟩ := LineSink.run_of_taken rfl h taken
  refine ⟨p, hp, ends.result, ends.machine, ?_⟩
  rw [ends.sink]
  exact String.empty_append

/-- A run whose lines do not fit stops right before the first line that does not, and the rest of
the lines are still to come. -/
theorem run_of_no_room {r : Nat} (h : m.state.Finishes w) (hr : r < w.printed.length) :
    ∃ p, m.run (LineSink.new (some r) false) = some p ∧
      p.result = .error (.output LineSink.fullReason) ∧
      p.sink.text = printedText (w.printed.take r) ∧ p.machine.options = m.options ∧
      m.StopsBefore (w.printed.take r) w.printed[r] p.machine ∧
      p.machine.state.Finishes ⟨w.result, w.state, w.printed.drop r⟩ := by
  have taken := LineSink.deliver_of_room (k := LineSink.new (some r) false) rfl w.printed
  rw [if_neg (by omega)] at taken
  obtain ⟨i, us, v, vs, split, refuses, p, hp, ends⟩ := run_of_refused h taken
  obtain ⟨k₁, hus, hv⟩ := refuses.taken
  have full : us.length = r := LineSink.length_eq_of_refused rfl hus hv
  have before : w.printed.take r = us := by rw [split, ← full, List.take_left]
  have here : w.printed[r] = v := by simp [split, ← full]
  obtain ⟨u, rest, rfl⟩ := h.rest refuses.going
  have left : (u.printAfter (m.state.walk i).printed).printed.drop r = u.printed := by
    rw [Walk.printed_printAfter, refuses.printed, ← full, List.drop_left]
  refine ⟨p, hp, ends.result, ?_, ?_, ?_, ?_⟩
  · rw [ends.sink]
    exact String.empty_append
  · rw [ends.machine, options_withState]
  · rw [ends.machine, before, here]
    exact stopsBefore_of_walk refuses.printed refuses.going refuses.value
  · rw [ends.machine, left]
    exact rest

/-! ## One run after the other -/

/-- What a limited run leaves to be done is the rest of the walk, with the lines that it has not
printed. -/
theorem run_limited (h : m.state.Finishes w) (r : Nat) :
    ∃ p, m.run (LineSink.new (some r) false) = some p ∧
      p.sink.text = printedText (w.printed.take r) ∧ p.machine.options = m.options ∧
      p.machine.state.Finishes ⟨w.result, w.state, w.printed.drop r⟩ := by
  by_cases hr : r < w.printed.length
  · obtain ⟨p, hp, -, text, options, -, rest⟩ := run_of_no_room h hr
    exact ⟨p, hp, text, options, rest⟩
  · have hr : w.printed.length ≤ r := by omega
    obtain ⟨p, hp, -, hm, text⟩ := run_of_room h hr
    refine ⟨p, hp, text, by rw [hm, options_withState], ?_⟩
    rw [hm, List.drop_eq_nil_of_le hr]
    exact h.again

/-- Runs into limited sinks, one after the other, and then a run into an unlimited one. -/
def runsThrough (rs : List Nat) : List (Call × LineSink) :=
  rs.map (fun r => (.run, LineSink.new (some r) false)) ++ [(.run, LineSink.unlimited)]

theorem outcomes_runsThrough (h : m.state.Finishes w) (rs : List Nat) :
    ∃ ps q, outcomes (runsThrough rs) m = some (ps ++ [q]) ∧
      ps.map (·.sink.text) = (rs.splitLengths w.printed).map printedText ∧
      q.sink.text = printedText (w.printed.drop rs.sum) ∧ q.result = w.result ∧
      q.machine = m.withState w.state := by
  induction rs generalizing m w with
  | nil =>
    obtain ⟨q, hq, hr, hm, text⟩ := run_unlimited h
    exact ⟨[], q, outcomes_cons (c := .run) hq [], rfl, text, hr, hm⟩
  | cons r rs ih =>
    obtain ⟨p, hp, text, options, rest⟩ := run_limited h r
    obtain ⟨ps, q, hps, texts, last, hr, hm⟩ := ih rest
    refine ⟨p :: ps, q, ?_, ?_, ?_, hr, ?_⟩
    · have first := outcomes_cons (c := .run) hp (runsThrough rs)
      rw [hps] at first
      exact first
    · rw [List.map_cons, text, texts, List.splitLengths_cons, List.map_cons]
    · rw [last, List.sum_cons, List.drop_drop]
    · rw [hm, withState, withState, options]

/-- Cutting a run off neither loses a line nor prints one twice. Of the lines that a run prints into
an unlimited sink, a run into a limited one prints as many as fit. If these are all, it ends alike.
If not, it fails right before the next line, and another run prints the rest of them and ends as the
uninterrupted run does. So it is for any sequence of limited sinks. -/
theorem lines_of_run_split_over_sinks {o : Outcome LineSink}
    (h : m.run LineSink.unlimited = some o) :
    ∃ vs, o.sink.text = printedText vs ∧
      (∀ r, ∃ p, m.run (LineSink.new (some r) false) = some p ∧
        p.sink.text = printedText (vs.take r) ∧
        (vs.length ≤ r → p.result = o.result ∧ p.machine = o.machine) ∧
        ∀ hr : r < vs.length, p.result = .error (.output LineSink.fullReason) ∧
          m.StopsBefore (vs.take r) vs[r] p.machine ∧
          ∃ q, p.machine.run LineSink.unlimited = some q ∧ q.sink.text = printedText (vs.drop r) ∧
            q.result = o.result ∧ q.machine = o.machine) ∧
      ∀ rs, ∃ ps q, outcomes (runsThrough rs) m = some (ps ++ [q]) ∧
        ps.map (·.sink.text) = (rs.splitLengths vs).map printedText ∧
        q.sink.text = printedText (vs.drop rs.sum) ∧ q.result = o.result ∧
        q.machine = o.machine := by
  obtain ⟨w, hw, hor, hom, text⟩ := finishes_of_run_unlimited h
  refine ⟨w.printed, text, ?_, ?_⟩
  · intro r
    by_cases hr : r < w.printed.length
    · obtain ⟨p, hp, failed, text, options, stops, rest⟩ := run_of_no_room hw hr
      obtain ⟨q, hq, hqr, hqm, text'⟩ := run_unlimited rest
      have same : q.machine = o.machine := by rw [hqm, hom, withState, withState, options]
      refine ⟨p, hp, text, ?_, ?_⟩
      · intro hle
        omega
      · intro hlt
        exact ⟨failed, stops, q, hq, text', hqr.trans hor.symm, same⟩
    · have hr : w.printed.length ≤ r := by omega
      obtain ⟨p, hp, hpr, hpm, text⟩ := run_of_room hw hr
      refine ⟨p, hp, text, ?_, ?_⟩
      · intro hle
        exact ⟨hpr.trans hor.symm, hpm.trans hom.symm⟩
      · intro hlt
        omega
  · intro rs
    obtain ⟨ps, q, hps, texts, text', hqr, hqm⟩ := outcomes_runsThrough hw rs
    exact ⟨ps, q, hps, texts, text', hqr.trans hor.symm, hqm.trans hom.symm⟩

/-- A machine that is about to print two lines. -/
def printsTwo : Machine :=
  ⟨⟨false, false, false⟩,
    .start (Memory.zero.overlay [0x82, 0, 8, 0x47, 0, 0x82, 0, 9, 0x47, 0, 0x01])⟩

/-- A sink for one line gets the first of them, and another run prints the second. -/
theorem printsTwo_run_resumes :
    ∃ o p q, printsTwo.run LineSink.unlimited = some o ∧ o.sink.text = "8\n9\n" ∧
      printsTwo.run (LineSink.new (some 1) false) = some p ∧ p.sink.text = "8\n" ∧
      p.result = .error (.output LineSink.fullReason) ∧
      p.machine.run LineSink.unlimited = some q ∧ q.sink.text = "9\n" ∧ q.result = .ok () ∧
      q.machine = o.machine := by
  have halted : (printsTwo.state.walk 5).state.halted = true := by decide +kernel
  have ok : (printsTwo.state.walk 5).result = .ok () := by decide +kernel
  have printed : (printsTwo.state.walk 5).printed = [8, 9] := by decide +kernel
  obtain ⟨o, ho, hor, -, text⟩ := run_unlimited (m := printsTwo) ⟨5, rfl, .inl halted⟩
  obtain ⟨vs, hvs, limited, -⟩ := lines_of_run_split_over_sinks ho
  obtain rfl : vs = [8, 9] := printedText_injective (hvs.symm.trans (printed ▸ text))
  obtain ⟨p, hp, hpt, -, rest⟩ := limited 1
  obtain ⟨failed, -, q, hq, hqt, hqr, hqm⟩ := rest (by decide)
  exact ⟨o, p, q, ho, hvs, hp, hpt, failed, hq, hqt, hqr.trans (hor.trans ok), hqm⟩

end ByteMachine.Machine
