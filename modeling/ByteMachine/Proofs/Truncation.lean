import ByteMachine.Proofs.LineSink
import ByteMachine.Proofs.Transcript

/-!
# Sessions with a limited sink

A session that ends with a sink that takes everything is only cut off by one that takes some lines.
If the session has no more lines than that, it ends as before. Otherwise it writes the lines that
there is room for, also if the limit falls into the middle of a text, and fails in the state in
which the first refused demand is made.
-/
namespace ByteMachine

/-- The lines that a demand writes if it is met. Its text may have line ends of its own. -/
def Demand.lines : Demand → List (List Char)
  | line text => text.toList.splitOn '\n'
  | flush => []

/-- The lines that demands write if they are met. -/
def linesOf (us : List Moment) : List (List Char) := us.flatMap (·.demand.lines)

@[simp] theorem linesOf_nil : linesOf [] = [] := rfl

@[simp] theorem linesOf_cons (u : Moment) (us : List Moment) :
    linesOf (u :: us) = u.demand.lines ++ linesOf us := rfl

theorem hasLines_of_line (text : String) : HasLines (text ++ "\n") (Demand.line text).lines := by
  obtain ⟨ls, h⟩ := exists_hasLines text
  have split := h.splitOn_eq
  have line : (text ++ "\n").toList = text.toList ++ '\n' :: [] := by simp
  rw [line, List.splitOn_append_cons_self] at split
  rw [Demand.lines, List.append_cancel_right split]
  exact h

theorem inline_lines (d : Demand) : ∀ l ∈ d.lines, '\n' ∉ l := by
  cases d with
  | line text => exact (hasLines_of_line text).inline
  | flush => simp [Demand.lines]

theorem inline_linesOf (us : List Moment) : ∀ l ∈ linesOf us, '\n' ∉ l := by
  intro l hl
  obtain ⟨u, -, here⟩ := List.mem_flatMap.1 hl
  exact inline_lines u.demand l here

namespace LineSink

variable {k : LineSink} {n : Nat}

/-! ## Meeting demands -/

theorem meet_of_unlimited (room : k.room = none) (flushes : k.flushFails = false) (d : Demand) :
    d.meet k = (.ok (), k.taking (String.ofList (joinLines d.lines)) none) := by
  cases d with
  | line text =>
    rw [(hasLines_of_line text).ofList_eq]
    simp only [Demand.meet, Sink.write, LineSink.write, room, taking]
  | flush =>
    rw [Demand.meet, flush_of_not_failing flushes, ← room]
    exact congrArg (Prod.mk _) k.taking_empty.symm

/-- A limited sink takes as many lines of a demand as it has room for. -/
theorem meet_of_room (room : k.room = some n) (flushes : k.flushFails = false) (d : Demand) :
    d.meet k = (if d.lines.length ≤ n then .ok () else .error fullReason,
      k.taking (String.ofList (joinLines (d.lines.take n))) (some (n - d.lines.length))) := by
  cases d with
  | line text => exact write_of_room (hasLines_of_line text) room
  | flush =>
    have same : k.taking "" (some n) = k := room ▸ k.taking_empty
    rw [Demand.meet, flush_of_not_failing flushes]
    simp [Demand.lines, same]

theorem meetAll_of_unlimited (room : k.room = none) (flushes : k.flushFails = false)
    (us : List Moment) :
    meetAll us k = (.ok (), k.taking (String.ofList (joinLines (linesOf us))) none) := by
  induction us generalizing k with
  | nil => exact congrArg (Prod.mk _) (room ▸ k.taking_empty).symm
  | cons u us ih =>
    rw [meetAll_of_met (meet_of_unlimited room flushes u.demand),
      ih (room_taking k _ _) flushes, taking_taking, linesOf_cons, joinLines_append,
      String.ofList_append]

theorem meetAll_of_room (room : k.room = some n) (flushes : k.flushFails = false)
    {us : List Moment} (fits : (linesOf us).length ≤ n) :
    meetAll us k = (.ok (),
      k.taking (String.ofList (joinLines (linesOf us))) (some (n - (linesOf us).length))) := by
  induction us generalizing k n with
  | nil => exact congrArg (Prod.mk _) (room ▸ k.taking_empty).symm
  | cons u us ih =>
    rw [linesOf_cons, List.length_append] at fits
    have met := meet_of_room room flushes u.demand
    rw [if_pos (by omega), List.take_of_length_le (by omega)] at met
    rw [meetAll_of_met met, ih (room_taking k _ _) flushes (by omega), taking_taking, linesOf_cons,
      joinLines_append, String.ofList_append, List.length_append, Nat.sub_sub]

/-- A demand is the first that there is not enough room for. -/
structure FirstRefused (us before : List Moment) (u : Moment) (n : Nat) : Prop where
  among : ∃ after, us = before ++ u :: after
  fits : (linesOf before).length ≤ n
  exceeds : n < (linesOf before).length + u.demand.lines.length

theorem meetAll_of_no_room (room : k.room = some n) (flushes : k.flushFails = false)
    {us : List Moment} (full : n < (linesOf us).length) :
    ∃ before u, FirstRefused us before u n ∧
      meetAll us k = (.error (u.state, fullReason),
        k.taking (String.ofList (joinLines ((linesOf us).take n))) (some 0)) := by
  induction us generalizing k n with
  | nil => exact absurd full (Nat.not_lt_zero n)
  | cons u us ih =>
    rw [linesOf_cons, List.length_append] at full
    have met := meet_of_room room flushes u.demand
    by_cases fits : u.demand.lines.length ≤ n
    · rw [if_pos fits, List.take_of_length_le fits] at met
      have later : n - u.demand.lines.length < (linesOf us).length := by omega
      obtain ⟨before, v, ⟨⟨after, rfl⟩, fits', exceeds⟩, refused⟩ :=
        ih (room_taking k (String.ofList (joinLines u.demand.lines)) _) flushes later
      refine ⟨u :: before, v, ⟨⟨after, rfl⟩, ?_, ?_⟩, ?_⟩
      · rw [linesOf_cons, List.length_append]
        omega
      · rw [linesOf_cons, List.length_append]
        omega
      · rw [meetAll_of_met met, refused, taking_taking, linesOf_cons u, List.take_append,
          List.take_of_length_le fits, joinLines_append, String.ofList_append]
    · rw [if_neg fits] at met
      refine ⟨[], u, ⟨⟨us, rfl⟩, Nat.zero_le n, ?_⟩, ?_⟩
      · rw [linesOf_nil, List.length_nil]
        omega
      · rw [meetAll_of_refused met, linesOf_cons, List.take_append_of_le_length (by omega),
          Nat.sub_eq_zero_of_le (by omega)]

end LineSink

namespace Debugger

/-! ## Sessions -/

theorem machine_session {σ : Type} [Sink σ] {lines : List ScriptLine} {m : Machine} {k : σ}
    {o : Outcome σ} (h : session lines m k = some o) :
    o.machine = m.withState o.machine.state := by
  have same : o.machine.options = m.options := (observed_session lines).options_eq h
  rw [Machine.withState, ← same]

/-- What a session comes to with a sink is its transcript, played with that sink. -/
theorem exists_session_of_transcribed {σ : Type} [Sink σ] {lines : List ScriptLine} {m : Machine}
    {t : Transcript} (h : Transcribed lines m.state t) (k : σ) {result : Except Fault Unit}
    {s : State} {k' : σ} (played : t.play k = (result, s, k')) :
    ∃ o, session lines m k = some o ∧ o.EndsIn result (m.withState s) k' := by
  obtain ⟨o, ho, effects⟩ := plays_session h m.options k
  obtain ⟨result', there⟩ := Prod.mk.inj (effects.trans played)
  obtain ⟨state, sink⟩ := Prod.mk.inj there
  exact ⟨o, ho, result', state ▸ machine_session ho, sink⟩

section Transcribed

variable {lines : List ScriptLine} {m : Machine} {t : Transcript} {n : Nat}

theorem session_unlimited (h : Transcribed lines m.state t) :
    ∃ o, session lines m LineSink.unlimited = some o ∧ o.result = t.result ∧
      o.machine = m.withState t.state ∧ HasLines o.sink.text (linesOf t.moments) := by
  have met := LineSink.meetAll_of_unlimited (k := LineSink.unlimited) rfl rfl t.moments
  obtain ⟨o, ho, ends⟩ := exists_session_of_transcribed h _ (Transcript.play_of_met met)
  refine ⟨o, ho, ends.result, ends.machine, ?_⟩
  rw [ends.sink]
  exact hasLines_empty.append (hasLines_ofList (inline_linesOf t.moments))

/-- With room for all of its lines a session ends as it does with room for everything. -/
theorem session_of_room (h : Transcribed lines m.state t) (fits : (linesOf t.moments).length ≤ n) :
    ∃ p, session lines m (LineSink.new (some n) false) = some p ∧ p.result = t.result ∧
      p.machine = m.withState t.state ∧ HasLines p.sink.text (linesOf t.moments) := by
  have met := LineSink.meetAll_of_room (k := LineSink.new (some n) false) rfl rfl fits
  obtain ⟨p, hp, ends⟩ := exists_session_of_transcribed h _ (Transcript.play_of_met met)
  refine ⟨p, hp, ends.result, ends.machine, ?_⟩
  rw [ends.sink]
  exact hasLines_empty.append (hasLines_ofList (inline_linesOf t.moments))

/-- Without it the session stops at the first demand that there is not enough room for. -/
theorem session_of_no_room (h : Transcribed lines m.state t)
    (full : n < (linesOf t.moments).length) :
    ∃ p before u, session lines m (LineSink.new (some n) false) = some p ∧
      p.result = .error (.output LineSink.fullReason) ∧
      LineSink.FirstRefused t.moments before u n ∧ p.machine = m.withState u.state ∧
      HasLines p.sink.text ((linesOf t.moments).take n) := by
  obtain ⟨before, u, first, refused⟩ :=
    LineSink.meetAll_of_no_room (k := LineSink.new (some n) false) rfl rfl full
  obtain ⟨p, hp, ends⟩ := exists_session_of_transcribed h _ (Transcript.play_of_refused refused)
  refine ⟨p, before, u, hp, ends.result, first, ends.machine, ?_⟩
  rw [ends.sink]
  exact hasLines_empty.append ((hasLines_ofList (inline_linesOf t.moments)).take n)

end Transcribed

/-- A limited sink truncates a session and does nothing else to it. Let a session end with a sink
that takes everything, and take its transcript. With a sink that takes `n` lines, be they fewer or
more than the session has, it writes the first `n` of its lines. If there is room for all of them,
the result and the machine at the end are the same. If not, the result is an output fault, and the
machine is left in the state in which the first demand is made that there is not enough room for: a
state between the first and the last one of the whole session, behind which nothing is executed. -/
theorem limited_sink_truncates_session {lines : List ScriptLine} {m : Machine}
    {o : Outcome LineSink} (h : session lines m LineSink.unlimited = some o) :
    ∃ t, Transcribed lines m.state t ∧ o.result = t.result ∧ o.machine = m.withState t.state ∧
      HasLines o.sink.text (linesOf t.moments) ∧
      ∀ n, ∃ p, session lines m (LineSink.new (some n) false) = some p ∧
        HasLines p.sink.text ((linesOf t.moments).take n) ∧
        ((linesOf t.moments).length ≤ n → p.result = o.result ∧ p.machine = o.machine) ∧
        (n < (linesOf t.moments).length →
          p.result = .error (.output LineSink.fullReason) ∧
          ∃ before u, LineSink.FirstRefused t.moments before u n ∧
            p.machine = m.withState u.state ∧ m.state.Reaches u.state ∧
            u.state.Reaches o.machine.state) := by
  obtain ⟨t, transcribed⟩ := exists_transcribed accepting_unlimited h
  obtain ⟨o', ho', result, machine, text⟩ := session_unlimited transcribed
  obtain rfl := Option.some.inj (ho'.symm.trans h)
  refine ⟨t, transcribed, result, machine, text, ?_⟩
  intro n
  by_cases fits : (linesOf t.moments).length ≤ n
  · obtain ⟨p, hp, result', machine', text'⟩ := session_of_room transcribed fits
    refine ⟨p, hp, ?_, ?_, ?_⟩
    · rw [List.take_of_length_le fits]
      exact text'
    · intro _
      exact ⟨result'.trans result.symm, machine'.trans machine.symm⟩
    · intro full
      exact absurd fits (Nat.not_le.2 full)
  · obtain ⟨p, before, u, hp, result', first, machine', text'⟩ :=
      session_of_no_room transcribed (Nat.not_le.1 fits)
    refine ⟨p, hp, text', ?_, ?_⟩
    · intro fits'
      exact absurd fits' fits
    · intro _
      obtain ⟨after, split⟩ := first.among
      have passes := transcribed.passesFrom.moments u (by simp [split])
      refine ⟨result', before, u, first, machine', passes.1, ?_⟩
      rw [machine]
      exact passes.2

/-- Three steps with one command. The value that they print is on the second line. -/
def stepsToTheHalt : List ScriptLine := [.text "step 3"]

/-- A sink for one line keeps the machine from coming to the halt, because the value is refused. -/
theorem stepsToTheHalt_is_cut :
    ∃ o p, session stepsToTheHalt printsEight LineSink.unlimited = some o ∧ o.result = .ok () ∧
      session stepsToTheHalt printsEight (LineSink.new (some 1) false) = some p ∧
      p.result = .error (.output LineSink.fullReason) ∧ p.sink.text.toList.count '\n' = 1 ∧
      p.machine.state.Reaches o.machine.state := by
  have whole : (session stepsToTheHalt printsEight LineSink.unlimited).map
      (fun o => (o.result, decide (1 < o.sink.text.toList.count '\n'))) = some (.ok (), true) := by
    decide +kernel
  obtain ⟨o, ho, told⟩ := Option.map_eq_some_iff.1 whole
  obtain ⟨ok, many⟩ := Prod.mk.inj told
  obtain ⟨t, -, -, -, text, cut⟩ := limited_sink_truncates_session ho
  obtain ⟨p, hp, text', -, full⟩ := cut 1
  have more : 1 < (linesOf t.moments).length := text.count_eq ▸ of_decide_eq_true many
  obtain ⟨refused, before, u, -, stands, -, ahead⟩ := full more
  refine ⟨o, p, ho, ok, hp, refused, ?_, ?_⟩
  · rw [text'.count_eq, List.length_take, Nat.min_eq_left more.le]
  · rw [stands]
    exact ahead

end Debugger

end ByteMachine
