import Mathlib.Logic.Relation
import ByteMachine.Proofs.Observation
import ByteMachine.Proofs.Transparency

/-!
# Transcripts

What is done with a machine can be told without its sink. A transcript lists the demands that are
made of the sink, each with the state in which it is made, and has the result and the state at the
end for the case that all of them are met. Played with a sink, it puts the demands to the sink one
after the other, and the first that is refused ends it in the state in which that was made. An
operation plays a transcript if this is what the operation comes to whatever the sink is; runs and
debugging sessions that end do so (`Debugger.exists_transcribed`, `Debugger.plays_session`).
-/
namespace ByteMachine

variable {σ : Type} [Sink σ]

/-- What is asked of a sink: to take a text and a line end behind it, or to flush. -/
inductive Demand where
  | line (text : String)
  | flush
  deriving DecidableEq

/-- Puts the demand to a sink. -/
def Demand.meet : Demand → σ → Except String Unit × σ
  | line text, k => Sink.write k (text ++ "\n")
  | flush, k => Sink.flush k

/-- A demand, and the state of the machine when it is made. -/
structure Moment where
  state : State
  demand : Demand
  deriving DecidableEq

/-- Puts demands to a sink up to the first that is refused. The refusal is told by the state in
which the demand was made and the reason. -/
def meetAll : List Moment → σ → Except (State × String) Unit × σ
  | [], k => (.ok (), k)
  | u :: us, k =>
    match u.demand.meet k with
    | (.ok (), k') => meetAll us k'
    | (.error reason, k') => (.error (u.state, reason), k')

section Meet

variable {u : Moment} {us : List Moment} {k k' : σ}

@[simp] theorem meetAll_nil (k : σ) : meetAll [] k = (.ok (), k) := rfl

theorem meetAll_of_met (h : u.demand.meet k = (.ok (), k')) (us : List Moment) :
    meetAll (u :: us) k = meetAll us k' := by
  simp [meetAll, h]

theorem meetAll_of_refused {reason : String} (h : u.demand.meet k = (.error reason, k'))
    (us : List Moment) : meetAll (u :: us) k = (.error (u.state, reason), k') := by
  simp [meetAll, h]

theorem meetAll_append_of_met (h : meetAll us k = (.ok (), k')) (vs : List Moment) :
    meetAll (us ++ vs) k = meetAll vs k' := by
  induction us generalizing k with
  | nil =>
    rw [List.nil_append, ← (Prod.mk.inj h).2]
  | cons u us ih =>
    rcases hu : u.demand.meet k with ⟨reason | ⟨⟩, k₁⟩
    · rw [meetAll_of_refused hu] at h
      exact absurd (Prod.mk.inj h).1 (by simp)
    · rw [meetAll_of_met hu] at h
      rw [List.cons_append, meetAll_of_met hu, ih h]

theorem meetAll_append_of_refused {r : State × String} (h : meetAll us k = (.error r, k'))
    (vs : List Moment) : meetAll (us ++ vs) k = (.error r, k') := by
  induction us generalizing k with
  | nil => exact absurd (Prod.mk.inj h).1 (by simp)
  | cons u us ih =>
    rcases hu : u.demand.meet k with ⟨reason | ⟨⟩, k₁⟩
    · rw [meetAll_of_refused hu] at h
      rw [List.cons_append, meetAll_of_refused hu, h]
    · rw [meetAll_of_met hu] at h
      rw [List.cons_append, meetAll_of_met hu, ih h]

theorem Accepting.meet (hk : Accepting k) (d : Demand) :
    d.meet k = (.ok (), (d.meet k).2) ∧ Accepting (d.meet k).2 := by
  cases d with
  | line text => exact ⟨Prod.ext (hk.write _) rfl, hk.after_write _⟩
  | flush => exact ⟨Prod.ext hk.flush rfl, hk.after_flush⟩

/-- A sink that takes everything meets all demands. -/
theorem Accepting.meetAll (hk : Accepting k) (us : List Moment) :
    ∃ k', ByteMachine.meetAll us k = (.ok (), k') ∧ Accepting k' := by
  induction us generalizing k with
  | nil => exact ⟨k, rfl, hk⟩
  | cons u us ih =>
    obtain ⟨met, hk'⟩ := hk.meet u.demand
    rw [meetAll_of_met met]
    exact ih hk'

end Meet

/-- The demands that are made, and how it ends if they are met. -/
structure Transcript where
  result : Except Fault Unit
  state : State
  moments : List Moment

namespace Transcript

/-- Nothing happens. -/
def stay (s : State) : Transcript := ⟨.ok (), s, []⟩

/-- Some demands are made and nothing else happens. -/
def asking (demands : List Demand) (s : State) : Transcript := ⟨.ok (), s, demands.map (⟨s, ·⟩)⟩

/-- Goes on with a second transcript unless the first one fails. -/
def andThen (t : Transcript) (u : State → Transcript) : Transcript :=
  match t.result with
  | .ok () => ⟨(u t.state).result, (u t.state).state, t.moments ++ (u t.state).moments⟩
  | .error _ => t

/-- There is nothing left to do at the end. -/
def Stopped (t : Transcript) : Prop := t.state.halted = true ∨ t.result ≠ .ok ()

/-- What the transcript comes to with a sink. -/
def play (t : Transcript) (k : σ) : Except Fault Unit × State × σ :=
  match meetAll t.moments k with
  | (.ok (), k') => (t.result, t.state, k')
  | (.error (s, reason), k') => (.error (.output reason), s, k')

variable {t : Transcript} {u v : State → Transcript} {s : State} {k k' : σ}

theorem andThen_of_ok (h : t.result = .ok ()) (u : State → Transcript) :
    t.andThen u =
      ⟨(u t.state).result, (u t.state).state, t.moments ++ (u t.state).moments⟩ := by
  simp [andThen, h]

theorem andThen_of_error {fault : Fault} (h : t.result = .error fault) (u : State → Transcript) :
    t.andThen u = t := by
  simp [andThen, h]

theorem andThen_assoc (t : Transcript) (u v : State → Transcript) :
    (t.andThen u).andThen v = t.andThen fun s => (u s).andThen v := by
  rcases h : t.result with fault | ⟨⟩
  · rw [andThen_of_error h, andThen_of_error h, andThen_of_error h]
  · rcases h' : (u t.state).result with fault | ⟨⟩ <;> simp [andThen, h, h']

theorem play_of_met (h : meetAll t.moments k = (.ok (), k')) :
    t.play k = (t.result, t.state, k') := by
  simp [play, h]

theorem play_of_refused {reason : String} (h : meetAll t.moments k = (.error (s, reason), k')) :
    t.play k = (.error (.output reason), s, k') := by
  simp [play, h]

/-- A demand that is refused is the end of whatever may have followed. -/
theorem play_andThen_of_refused {reason : String}
    (h : meetAll t.moments k = (.error (s, reason), k')) (u : State → Transcript) :
    (t.andThen u).play k = (.error (.output reason), s, k') := by
  rcases hr : t.result with fault | ⟨⟩
  · rw [andThen_of_error hr, play_of_refused h]
  · rw [andThen_of_ok hr]
    exact play_of_refused (meetAll_append_of_refused h _)

theorem play_andThen_of_met (hr : t.result = .ok ()) (h : meetAll t.moments k = (.ok (), k'))
    (u : State → Transcript) : (t.andThen u).play k = (u t.state).play k' := by
  rw [andThen_of_ok hr, play, play, meetAll_append_of_met h]

end Transcript

/-! ## The states on the way -/

/-- Steps lead from the one state to the other. -/
def State.Reaches : State → State → Prop := Relation.ReflTransGen fun s s' => s.next = .ok s'

/-- From the state on, steps lead through the states in which demands are made and then to the state
at the end. -/
structure Transcript.PassesFrom (t : Transcript) (s : State) : Prop where
  moments : ∀ u ∈ t.moments, s.Reaches u.state ∧ u.state.Reaches t.state
  state : s.Reaches t.state

namespace Transcript

variable {t : Transcript} {u : State → Transcript} {s : State}

theorem passesFrom_stay (s : State) : (stay s).PassesFrom s := ⟨nofun, .refl⟩

theorem passesFrom_asking (demands : List Demand) (s : State) :
    (asking demands s).PassesFrom s := by
  refine ⟨?_, .refl⟩
  intro v hv
  obtain ⟨demand, -, rfl⟩ := List.mem_map.1 hv
  exact ⟨.refl, .refl⟩

theorem PassesFrom.andThen (h : t.PassesFrom s)
    (hu : t.result = .ok () → (u t.state).PassesFrom t.state) : (t.andThen u).PassesFrom s := by
  rcases hr : t.result with fault | ⟨⟩
  · rwa [andThen_of_error hr]
  have later := hu hr
  rw [andThen_of_ok hr]
  refine ⟨?_, h.state.trans later.state⟩
  intro v hv
  rcases List.mem_append.1 hv with hv | hv
  · obtain ⟨before, behind⟩ := h.moments v hv
    exact ⟨before, behind.trans later.state⟩
  · obtain ⟨before, behind⟩ := later.moments v hv
    exact ⟨h.state.trans before, behind⟩

end Transcript

/-! ## Playing a transcript -/

/-- What the operation comes to in a state is told by the transcript, under all options and with
every sink. -/
def Plays (f : Machine → σ → Option (Outcome σ)) (s : State) (t : Transcript) : Prop :=
  ∀ p k, ∃ o, f ⟨p, s⟩ k = some o ∧ o.effects = t.play k

theorem plays_some_iff {f : Machine → σ → Outcome σ} {s : State} {t : Transcript} :
    Plays (fun m k => some (f m k)) s t ↔ ∀ p k, (f ⟨p, s⟩ k).effects = t.play k := by
  simp [Plays]

omit [Sink σ] in
theorem Outcome.EndsIn.effects_eq {o : Outcome σ} {result : Except Fault Unit} {m : Machine} {k : σ}
    (h : o.EndsIn result m k) : o.effects = (result, m.state, k) := by
  rw [Outcome.effects, h.result, h.machine, h.sink]

/-- With a sink that takes everything a transcript is played to its end. -/
theorem Transcript.ends_of_accepting {t : Transcript} {k : σ} {o : Outcome σ} (hk : Accepting k)
    (h : o.effects = t.play k) :
    o.result = t.result ∧ o.machine.state = t.state ∧ Accepting o.sink := by
  obtain ⟨k', met, hk'⟩ := hk.meetAll t.moments
  rw [play_of_met met] at h
  obtain ⟨result, there⟩ := Prod.mk.inj h
  obtain ⟨state, sink⟩ := Prod.mk.inj there
  exact ⟨result, state, sink ▸ hk'⟩

namespace Plays

variable {f g : Machine → σ → Option (Outcome σ)} {s : State} {t : Transcript}
  {u : State → Transcript}

/-- Transcripts are played one after the other. -/
theorem andThen? (hf : Plays f s t) (hg : t.result = .ok () → Plays g t.state (u t.state)) :
    Plays (fun m k => (f m k).bind (·.andThen? g)) s (t.andThen u) := by
  intro p k
  obtain ⟨⟨result, ⟨q, s'⟩, k₁, log⟩, ho, effects⟩ := hf p k
  simp only [ho, Option.bind_some, Outcome.andThen?]
  rcases hmeet : meetAll t.moments k with ⟨⟨s₁, reason⟩ | ⟨⟩, k'⟩
  · rw [Transcript.play_of_refused hmeet] at effects
    obtain ⟨rfl, -⟩ := Prod.mk.inj effects
    exact ⟨_, rfl, effects.trans (Transcript.play_andThen_of_refused hmeet u).symm⟩
  rw [Transcript.play_of_met hmeet] at effects
  rcases hr : t.result with fault | ⟨⟩
  · rw [hr] at effects
    obtain ⟨rfl, -⟩ := Prod.mk.inj effects
    rw [Transcript.andThen_of_error hr, Transcript.play_of_met hmeet, hr]
    exact ⟨_, rfl, effects⟩
  · rw [hr] at effects
    obtain ⟨rfl, there⟩ := Prod.mk.inj effects
    obtain ⟨rfl, rfl⟩ := Prod.mk.inj there
    obtain ⟨o', ho', effects'⟩ := hg hr q k₁
    simp only [ho', Option.map_some]
    exact ⟨_, rfl, effects'.trans (Transcript.play_andThen_of_met hr hmeet u).symm⟩

/-- What always ends may follow. -/
theorem andThen {g : Machine → σ → Outcome σ} (hf : Plays f s t)
    (hg : t.result = .ok () → Plays (fun m k => some (g m k)) t.state (u t.state)) :
    Plays (fun m k => (f m k).map (·.andThen g)) s (t.andThen u) := by
  have h := hf.andThen? hg
  simpa only [Outcome.map_andThen] using h

/-- What always ends may be followed by what always ends. -/
theorem thenSome {f g : Machine → σ → Outcome σ} (hf : Plays (fun m k => some (f m k)) s t)
    (hg : t.result = .ok () → Plays (fun m k => some (g m k)) t.state (u t.state)) :
    Plays (fun m k => some ((f m k).andThen g)) s (t.andThen u) :=
  hf.andThen hg

end Plays

/-! ## Steps and runs -/

namespace State

/-- A step: a line for what it prints, and the next state. -/
def attempt (s : State) : Transcript :=
  match s.next with
  | .error fault => ⟨.error fault, s, []⟩
  | .ok s' =>
    ⟨.ok (), s', s.printed?.toList.map fun v => ⟨s, .line (Numeral.decimal v.toNat)⟩⟩

/-- Up to `n` steps. -/
def transcript : Nat → State → Transcript
  | 0, s => .stay s
  | n + 1, s => if s.halted then .stay s else s.attempt.andThen (transcript n)

theorem passesFrom_attempt (s : State) : s.attempt.PassesFrom s := by
  rw [attempt]
  rcases hn : s.next with fault | s'
  · exact ⟨nofun, .refl⟩
  · refine ⟨?_, .single hn⟩
    intro v hv
    obtain ⟨value, -, rfl⟩ := List.mem_map.1 hv
    exact ⟨.refl, .single hn⟩

theorem passesFrom_transcript (n : Nat) (s : State) : (s.transcript n).PassesFrom s := by
  induction n generalizing s with
  | zero => exact Transcript.passesFrom_stay s
  | succ n ih =>
    rw [transcript]
    split
    · exact Transcript.passesFrom_stay s
    · exact (passesFrom_attempt s).andThen fun _ => ih _

end State

namespace Machine

theorem plays_done (s : State) : Plays (fun m (k : σ) => some (.done m k)) s (.stay s) := by
  rw [plays_some_iff]
  intro p k
  rfl

theorem plays_note (e : Event) (s : State) :
    Plays (fun m (k : σ) => some (note e m k)) s (.stay s) := by
  rw [plays_some_iff]
  intro p k
  rfl

theorem plays_say (text : State → String) (s : State) :
    Plays (fun m (k : σ) => some (m.say (text m.state ++ "\n") k)) s
      (.asking [.line (text s)] s) := by
  rw [plays_some_iff]
  intro p k
  rcases hw : Sink.write k (text s ++ "\n") with ⟨reason | ⟨⟩, k'⟩ <;>
    simp [say, hw, Outcome.effects, Transcript.play, Transcript.asking, meetAll, Demand.meet]

theorem plays_flush (s : State) :
    Plays (fun m (k : σ) => some (m.flush k)) s (.asking [.flush] s) := by
  rw [plays_some_iff]
  intro p k
  rcases hf : Sink.flush k with ⟨reason | ⟨⟩, k'⟩ <;>
    simp [flush, hf, Outcome.effects, Transcript.play, Transcript.asking, meetAll, Demand.meet]

theorem plays_step (s : State) : Plays (fun m (k : σ) => some (m.step k)) s s.attempt := by
  rw [plays_some_iff]
  intro p k
  by_cases halted : s.halted = true
  · rw [(step_of_halted (m := ⟨p, s⟩) halted k).effects_eq]
    simp [State.attempt, State.next_of_halted halted, State.printed?_of_halted halted,
      Transcript.play]
  have running : (⟨p, s⟩ : Machine).halted = false := by simpa [Machine.halted] using halted
  rcases hn : s.next with fault | s'
  · rw [(step_of_next_error running hn k).effects_eq]
    simp [State.attempt, hn, Transcript.play]
  rcases hp : s.printed? with _ | v
  · rw [(step_of_silent running hn hp k).effects_eq]
    simp [State.attempt, hn, hp, Transcript.play]
  rcases hw : Sink.write k (printedLine v) with ⟨reason | ⟨⟩, k'⟩
  · rw [(step_of_refused running hn hp hw).effects_eq]
    rw [printedLine] at hw
    simp [State.attempt, hn, hp, hw, Transcript.play, meetAll, Demand.meet]
  · rw [(step_of_accepted running hn hp hw).effects_eq]
    rw [printedLine] at hw
    simp [State.attempt, hn, hp, hw, Transcript.play, meetAll, Demand.meet]

theorem plays_stepUpTo (n : Nat) (s : State) :
    Plays (fun m (k : σ) => some (m.stepUpTo n k)) s (s.transcript n) := by
  induction n generalizing s with
  | zero => exact plays_done s
  | succ n ih =>
    rw [plays_some_iff]
    intro p k
    rw [State.transcript, stepUpTo_succ, Machine.halted]
    by_cases halted : s.halted = true
    · rw [if_pos halted, if_pos halted]
      rfl
    · rw [if_neg halted, if_neg halted]
      exact plays_some_iff.1 ((plays_step s).thenSome fun _ => ih s.attempt.state) p k

theorem stopped_of_play {o : Outcome σ} {t : Transcript} {k : σ} (h : o.effects = t.play k)
    (stopped : t.Stopped) : o.Stopped := by
  rcases hmeet : meetAll t.moments k with ⟨⟨s, reason⟩ | ⟨⟩, k'⟩
  · rw [Transcript.play_of_refused hmeet] at h
    have failed : o.result = .error (.output reason) := congrArg Prod.fst h
    exact .inr (by simp [failed])
  · rw [Transcript.play_of_met hmeet] at h
    obtain ⟨result, there⟩ := Prod.mk.inj h
    rw [Outcome.Stopped, (Prod.mk.inj there).1, result]
    exact stopped

/-- Steps that stop are a run to the halt. -/
theorem plays_runToHalt {s : State} {n : Nat} (stopped : (s.transcript n).Stopped) :
    Plays (runToHalt (σ := σ)) s (s.transcript n) := by
  intro p k
  have effects := plays_some_iff.1 (plays_stepUpTo n s) p k
  exact ⟨_, runToHalt_eq_some_iff.2 ⟨n, rfl, stopped_of_play effects stopped⟩, effects⟩

theorem plays_run {s : State} {n : Nat} (stopped : (s.transcript n).Stopped) :
    Plays (run (σ := σ)) s ((s.transcript n).andThen (.asking [.flush])) := by
  have toHalt := (plays_note .running s).andThen? (g := runToHalt (σ := σ))
    (u := fun s => s.transcript n) fun _ => plays_runToHalt stopped
  exact toHalt.andThen fun _ => plays_flush _

/-- A run that ends with a sink that takes everything has steps that stop. -/
theorem exists_stopped_of_run {m : Machine} {k : σ} {o : Outcome σ} (hk : Accepting k)
    (ran : m.run k = some o) : ∃ n, (m.state.transcript n).Stopped := by
  obtain ⟨n, stopped, -⟩ := exists_stepUpTo_of_run ran
  have effects := plays_some_iff.1 (plays_stepUpTo n m.state) m.options k
  obtain ⟨result, state, -⟩ := Transcript.ends_of_accepting hk effects
  refine ⟨n, ?_⟩
  rw [Transcript.Stopped, ← state, ← result]
  exact stopped

end Machine

/-! ## Sessions -/

namespace Debugger

/-- A row of a dump without its line end. -/
def rowText (row : Nat × List UInt8) : String :=
  Numeral.hex 2 row.1 ++ ": " ++ String.intercalate " " (row.2.map hexByte)

/-- A complaint without its line end. -/
def complaintText (c : Complaint) : String := "ls8-rs: " ++ c.message

/-- What a request has to say when its steps have been made, in the state that these have left. -/
def Request.remarks : Request → State → List Demand
  | .idle, _ | .leave none, _ => []
  | .complaint c, _ | .leave (some c), _ => [.line (complaintText c)]
  | .command ⟨.step, arguments⟩, s =>
    match numberOr 1 arguments[0]? with
    | .ok _ => [.line (nextText s)]
    | .error c => [.line (complaintText c)]
  | .command ⟨.resume, _⟩, s => [.flush, .line (nextText s)]
  | .command ⟨.registers, _⟩, s => [.line s.report]
  | .command ⟨.dump, arguments⟩, s =>
    match dumpRange s arguments with
    | .ok (start, length) =>
      (dumpRows start.toNat (s.memory.slice start length)).map fun row => .line (rowText row)
    | .error c => [.line (complaintText c)]
  | .command ⟨.trace, _⟩, s => [.line s.snapshot.text]
  | .command ⟨.quit, _⟩, _ => []

/-- The transcript of a request: the steps on its budget, or steps that stop if the budget has no
end, and then the remarks. -/
def Request.Told (request : Request) (s : State) (t : Transcript) : Prop :=
  ∃ n : ℕ, ((n : ℕ∞) = request.budget ∨ request.budget = ⊤ ∧ (s.transcript n).Stopped) ∧
    t = (s.transcript n).andThen fun s' => .asking (request.remarks s') s'

/-- The transcript of requests, up to the first that is the last one. A request that fails is the
end, so what would come later is not asked for. -/
inductive Narrates : List Request → State → Transcript → Prop
  | nil (s : State) : Narrates [] s (.stay s)
  | last {request : Request} {s : State} {t : Transcript} (last : request.isLast = true)
      (told : request.Told s t) (requests : List Request) : Narrates (request :: requests) s t
  | cons {request : Request} {requests : List Request} {s : State} {t u : Transcript}
      (more : request.isLast = false) (told : request.Told s t)
      (later : t.result = .ok () → Narrates requests t.state u) :
      Narrates (request :: requests) s (t.andThen fun _ => u)

/-- The transcript of a session: what comes next is shown, the lines are answered, and the sink is
flushed. -/
def Transcribed (lines : List ScriptLine) (s : State) (t : Transcript) : Prop :=
  ∃ u, Narrates (lines.map .ofLine) s u ∧
    t = ((Transcript.asking [.line (nextText s)] s).andThen fun _ => u).andThen (.asking [.flush])

theorem Request.Told.passesFrom {request : Request} {s : State} {t : Transcript}
    (h : request.Told s t) : t.PassesFrom s := by
  obtain ⟨n, -, rfl⟩ := h
  exact (State.passesFrom_transcript n s).andThen fun _ => Transcript.passesFrom_asking _ _

theorem Narrates.passesFrom {requests : List Request} {s : State} {t : Transcript}
    (h : Narrates requests s t) : t.PassesFrom s := by
  induction h with
  | nil s => exact Transcript.passesFrom_stay s
  | last _ told _ => exact told.passesFrom
  | cons _ told _ ih => exact told.passesFrom.andThen ih

theorem Transcribed.passesFrom {lines : List ScriptLine} {s : State} {t : Transcript}
    (h : Transcribed lines s t) : t.PassesFrom s := by
  obtain ⟨u, narrates, rfl⟩ := h
  have begun := Transcript.passesFrom_asking [.line (nextText s)] s
  exact (begun.andThen fun _ => narrates.passesFrom).andThen
    fun _ => Transcript.passesFrom_asking _ _

/-! ### Sessions play their transcripts -/

theorem plays_showNext (s : State) :
    Plays (fun m (k : σ) => some (showNext m k)) s (.asking [.line (nextText s)] s) :=
  Machine.plays_say nextText s

theorem plays_complain (c : Complaint) (s : State) :
    Plays (fun m (k : σ) => some (complain c m k)) s (.asking [.line (complaintText c)] s) :=
  Machine.plays_say (fun _ => complaintText c) s

theorem plays_sayRows (rows : List (Nat × List UInt8)) (s : State) :
    Plays (fun m (k : σ) => some (sayAll (rows.map rowLine) m k)) s
      (.asking (rows.map fun row => .line (rowText row)) s) := by
  induction rows with
  | nil => exact Machine.plays_done s
  | cons row rows ih => exact (Machine.plays_say (fun _ => rowText row) s).thenSome fun _ => ih

theorem plays_dump (arguments : List String) (s : State) :
    Plays (fun m (k : σ) => some (dump arguments m k)) s
      (.asking ((Request.command ⟨.dump, arguments⟩).remarks s) s) := by
  rw [plays_some_iff]
  intro p k
  rw [Request.remarks, dump]
  rcases h : dumpRange s arguments with c | ⟨start, length⟩
  · exact plays_some_iff.1 (plays_complain c s) p k
  · exact plays_some_iff.1 (plays_sayRows _ s) p k

/-- A request without a budget makes no step. -/
theorem Request.Told.eq_of_budget_eq_zero {request : Request} {s : State} {t : Transcript}
    (h : request.Told s t) (still : request.budget = 0) : t = .asking (request.remarks s) s := by
  obtain ⟨n, spent | ⟨endless, -⟩, rfl⟩ := h
  · rw [still, Nat.cast_eq_zero] at spent
    rw [spent]
    rfl
  · exact absurd (endless.symm.trans still) ENat.top_ne_zero

theorem Request.budget_step_of_ok {arguments : List String} {count : Nat}
    (h : numberOr 1 arguments[0]? = .ok count) :
    (Request.command ⟨.step, arguments⟩).budget = count := by
  rcases ha : arguments[0]? with _ | text
  · obtain rfl : 1 = count := by simpa [numberOr, ha] using h
    simp [budget, ha]
  · rcases hn : readNumber? text with _ | n
    · simp [numberOr, readNumber, ha, hn] at h
    · obtain rfl : n = count := by simpa [numberOr, readNumber, ha, hn] using h
      simp [budget, ha, hn]

theorem Request.budget_step_of_error {arguments : List String} {c : Complaint}
    (h : numberOr 1 arguments[0]? = .error c) :
    (Request.command ⟨.step, arguments⟩).budget = 0 := by
  rcases ha : arguments[0]? with _ | text
  · simp [numberOr, ha] at h
  · rcases hn : readNumber? text with _ | n
    · simp [budget, ha, hn]
    · simp [numberOr, readNumber, ha, hn] at h

theorem plays_step {arguments : List String} {s : State} {t : Transcript}
    (h : (Request.command ⟨.step, arguments⟩).Told s t) :
    Plays (fun m (k : σ) => some (step arguments m k)) s t := by
  rcases hn : numberOr 1 arguments[0]? with c | count
  · rw [h.eq_of_budget_eq_zero (Request.budget_step_of_error hn), Request.remarks, hn]
    simpa only [step, hn] using plays_complain c s
  · have budget := Request.budget_step_of_ok hn
    obtain ⟨n, spent | ⟨endless, -⟩, rfl⟩ := h
    · obtain rfl : n = count := Nat.cast_injective (spent.trans budget)
      simp only [Request.remarks, step, hn]
      exact (Machine.plays_stepUpTo n s).thenSome fun _ => plays_showNext _
    · exact absurd (budget.symm.trans endless) (ENat.natCast_ne_top count)

theorem plays_resume {arguments : List String} {s : State} {t : Transcript}
    (h : (Request.command ⟨.resume, arguments⟩).Told s t) :
    Plays (resume (σ := σ)) s t := by
  obtain ⟨n, spent | ⟨-, stopped⟩, rfl⟩ := h
  · exact absurd spent (ENat.natCast_ne_top n)
  · have ran := (Machine.plays_run (σ := σ) stopped).andThen (g := showNext)
      (u := fun s' => .asking [.line (nextText s')] s') fun _ => plays_showNext _
    rw [Transcript.andThen_assoc] at ran
    exact ran

theorem plays_perform {c : Command} {s : State} {t : Transcript}
    (h : (Request.command c).Told s t) : Plays (perform (σ := σ) c) s t := by
  obtain ⟨verb, arguments⟩ := c
  cases verb with
  | step => exact plays_step h
  | resume => exact plays_resume h
  | registers =>
    rw [h.eq_of_budget_eq_zero rfl]
    exact Machine.plays_say State.report s
  | dump =>
    rw [h.eq_of_budget_eq_zero rfl]
    exact plays_dump arguments s
  | trace =>
    rw [h.eq_of_budget_eq_zero rfl]
    exact Machine.plays_say (fun s => s.snapshot.text) s
  | quit =>
    rw [h.eq_of_budget_eq_zero rfl]
    exact Machine.plays_done s

theorem plays_answer {request : Request} {s : State} {t : Transcript} (h : request.Told s t) :
    Plays (answer (σ := σ) request) s t := by
  cases request with
  | idle =>
    rw [h.eq_of_budget_eq_zero rfl]
    exact Machine.plays_done s
  | command c => exact plays_perform h
  | complaint c =>
    rw [h.eq_of_budget_eq_zero rfl]
    exact plays_complain c s
  | leave reason =>
    rw [h.eq_of_budget_eq_zero rfl]
    cases reason with
    | none => exact Machine.plays_done s
    | some c => exact plays_complain c s

theorem plays_answerAll {requests : List Request} {s : State} {t : Transcript}
    (h : Narrates requests s t) : Plays (answerAll (σ := σ) requests) s t := by
  induction h with
  | nil s => exact Machine.plays_done s
  | last last told requests =>
    rw [answerAll_of_last last]
    exact plays_answer told
  | cons more told _ ih =>
    rw [answerAll_of_more more]
    exact (plays_answer told).andThen? ih

/-- A session that has a transcript plays it with every sink. -/
theorem plays_session {lines : List ScriptLine} {s : State} {t : Transcript}
    (h : Transcribed lines s t) : Plays (session (σ := σ) lines) s t := by
  obtain ⟨u, narrates, rfl⟩ := h
  have begun : Plays (fun m (k : σ) => some (beginSession m k)) s
      (.asking [.line (nextText s)] s) :=
    (Machine.plays_note .debuggerStarted s).thenSome (u := .asking [.line (nextText s)])
      fun _ => plays_showNext s
  have ended (s' : State) : Plays (fun m (k : σ) => some (endSession m k)) s'
      (.asking [.flush] s') :=
    (Machine.plays_note .debuggerLeft s').thenSome (u := .asking [.flush])
      fun _ => Machine.plays_flush s'
  exact (begun.andThen? fun _ => plays_answerAll narrates).andThen fun _ => ended _

/-! ### Sessions that end have transcripts -/

/-- Only a command to go on has no end of steps. -/
theorem Request.exists_resume_of_budget_eq_top {request : Request} (h : request.budget = ⊤) :
    ∃ arguments, request = .command ⟨.resume, arguments⟩ := by
  cases request with
  | command c =>
    obtain ⟨verb, arguments⟩ := c
    cases verb with
    | resume => exact ⟨arguments, rfl⟩
    | step =>
      rcases hn : numberOr 1 arguments[0]? with c | count
      · exact absurd ((budget_step_of_error hn).symm.trans h) ENat.zero_ne_top
      · exact absurd ((budget_step_of_ok hn).symm.trans h) (ENat.natCast_ne_top count)
    | _ => exact absurd h ENat.zero_ne_top
  | _ => exact absurd h ENat.zero_ne_top

theorem exists_told {request : Request} {m : Machine} {k : σ} {o : Outcome σ} (hk : Accepting k)
    (ho : answer request m k = some o) : ∃ t, request.Told m.state t := by
  by_cases endless : request.budget = ⊤
  · obtain ⟨arguments, rfl⟩ := Request.exists_resume_of_budget_eq_top endless
    obtain ⟨p, ran, -⟩ := Option.map_eq_some_iff.1 ho
    obtain ⟨n, stopped⟩ := Machine.exists_stopped_of_run hk ran
    exact ⟨_, n, .inr ⟨rfl, stopped⟩, rfl⟩
  · obtain ⟨n, spent⟩ := ENat.ne_top_iff_exists.1 endless
    exact ⟨_, n, .inl spent, rfl⟩

theorem exists_narrates {requests : List Request} {m : Machine} {k : σ} {o : Outcome σ}
    (hk : Accepting k) (ho : answerAll requests m k = some o) :
    ∃ t, Narrates requests m.state t := by
  induction requests generalizing m k o with
  | nil => exact ⟨_, .nil m.state⟩
  | cons request requests ih =>
    by_cases last : request.isLast = true
    · rw [answerAll_of_last last] at ho
      obtain ⟨t, told⟩ := exists_told hk ho
      exact ⟨t, .last last told requests⟩
    have more : request.isLast = false := by simpa using last
    rw [answerAll_of_more more] at ho
    obtain ⟨o₁, first, rest⟩ := Option.bind_eq_some_iff.1 ho
    obtain ⟨t, told⟩ := exists_told hk first
    -- With a sink that takes everything the first request comes to what its transcript says.
    obtain ⟨o₂, same, effects⟩ := plays_answer told m.options k
    obtain rfl := Option.some.inj (same.symm.trans first)
    obtain ⟨result, state, hk'⟩ := Transcript.ends_of_accepting hk effects
    rcases hr : t.result with fault | ⟨⟩
    · exact ⟨_, .cons (u := t) more told fun ok => absurd ok (by simp [hr])⟩
    · rw [Outcome.andThen?, result.trans hr] at rest
      obtain ⟨o₃, later, -⟩ := Option.map_eq_some_iff.1 rest
      obtain ⟨u, narrates⟩ := ih hk' later
      exact ⟨_, .cons more told fun _ => state ▸ narrates⟩

/-- A session that ends with a sink that takes everything has a transcript. -/
theorem exists_transcribed {lines : List ScriptLine} {m : Machine} {k : σ} {o : Outcome σ}
    (hk : Accepting k) (ho : session lines m k = some o) : ∃ t, Transcribed lines m.state t := by
  obtain ⟨p, answered, -⟩ := Option.map_eq_some_iff.1 ho
  have shown := Machine.say_endsIn (m := m) (hk.write (nextText m.state ++ "\n"))
  have begun : (beginSession m k).EndsIn (.ok ()) m (Sink.write k (nextText m.state ++ "\n")).2 :=
    shown.logAfter _
  rw [Outcome.andThen?, begun.result, begun.machine, begun.sink] at answered
  obtain ⟨q, narrated, -⟩ := Option.map_eq_some_iff.1 answered
  obtain ⟨u, narrates⟩ := exists_narrates (hk.after_write _) narrated
  exact ⟨_, u, narrates, rfl⟩

end Debugger

end ByteMachine
