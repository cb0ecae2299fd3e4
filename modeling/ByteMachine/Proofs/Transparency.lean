import ByteMachine.Debugger.Session
import ByteMachine.Proofs.Budget

/-!
# Transparency of the debugger

What a debugging session does to the machine is told by a budget of plain steps. Each line of the
script adds its share, most of them nothing, and the session ends as the steps on the sum of the
shares do. So scripts of one budget cannot be told apart by what becomes of the machine, and neither
can scripts that have more budget than it takes the machine to stop.
-/
namespace ByteMachine

variable {σ : Type} [Sink σ]

namespace Outcome

/-- How an operation ends, apart from what it writes and logs. -/
def ending (o : Outcome σ) : Except Fault Unit × Machine := (o.result, o.machine)

/-- The operation ends as the walk does, and the sink still takes everything. -/
structure Follows (o : Outcome σ) (m : Machine) (w : Walk) : Prop where
  result : o.result = w.result
  machine : o.machine = m.withState w.state
  sink : Accepting o.sink

theorem Follows.logAfter {o : Outcome σ} {m : Machine} {w : Walk} (h : o.Follows m w)
    (entries : List LogEntry) : (o.logAfter entries).Follows m w :=
  ⟨h.result, h.machine, h.sink⟩

/-- An operation that only writes can be put in front. -/
theorem Follows.andThen {o : Outcome σ} {m : Machine} {w : Walk} {f : Machine → σ → Outcome σ}
    (h : o.Follows m (.stay m.state)) (hf : ∀ k, Accepting k → (f m k).Follows m w) :
    (o.andThen f).Follows m w := by
  rw [andThen_of_ok h.result, h.machine]
  exact (hf o.sink h.sink).logAfter o.log

end Outcome

/-! ## Operations on a budget -/

/-- Whatever the operation does besides, it makes steps on a budget: it has an outcome if the steps
come to an end, and it ends as they do. -/
structure Spends (b : ℕ∞) (f : Machine → σ → Option (Outcome σ)) : Prop where
  ends : ∀ {m k w}, Accepting k → m.state.WalksOn b w → ∃ o, f m k = some o ∧ o.Follows m w
  walks : ∀ {m k o}, Accepting k → f m k = some o → ∃ w, m.state.WalksOn b w

namespace Spends

variable {f g : Machine → σ → Option (Outcome σ)} {a b : ℕ∞}

theorem follows (h : Spends b f) {m : Machine} {k : σ} {o : Outcome σ} (hk : Accepting k)
    (ho : f m k = some o) : ∃ w, m.state.WalksOn b w ∧ o.Follows m w := by
  obtain ⟨w, hw⟩ := h.walks hk ho
  obtain ⟨o', ho', follows⟩ := h.ends hk hw
  obtain rfl := Option.some.inj (ho'.symm.trans ho)
  exact ⟨w, hw, follows⟩

/-- An operation that only writes spends nothing. -/
theorem nothing {f : Machine → σ → Outcome σ}
    (h : ∀ m k, Accepting k → (f m k).Follows m (.stay m.state)) :
    Spends 0 fun m k => some (f m k) where
  ends {m k w} hk hw := by
    obtain rfl := hw.unique (State.walksOn_natCast 0 m.state)
    exact ⟨f m k, rfl, h m k hk⟩
  walks {m _ _} _ _ := ⟨_, State.walksOn_natCast 0 m.state⟩

/-- Operations one after the other spend their budgets one after the other. -/
theorem andThen? (hf : Spends a f) (hg : Spends b g) :
    Spends (a + b) fun m k => (f m k).bind (·.andThen? g) where
  ends {m k w} hk hw := by
    obtain ⟨u, hu⟩ := hw.exists_left
    obtain ⟨o, ho, first⟩ := hf.ends hk hu
    rcases hr : u.result with fault | ⟨⟩
    · have stopped : u.Stopped := .inr (by simp [hr])
      obtain rfl := hw.unique (hu.mono stopped le_self_add)
      exact ⟨o, by simp [ho, Outcome.andThen?, first.result, hr], first⟩
    · obtain ⟨v, hv⟩ := hw.exists_right hu hr
      obtain rfl := hw.unique (hu.add hr hv)
      obtain ⟨p, hp, second⟩ := hg.ends (m := m.withState u.state) first.sink hv
      refine ⟨p.logAfter o.log, ?_, second.result, second.machine, second.sink⟩
      simp [ho, Outcome.andThen?, first.result, hr, first.machine, hp]
  walks {m k o} hk ho := by
    obtain ⟨p, hp, hop⟩ := Option.bind_eq_some_iff.1 ho
    obtain ⟨u, hu, first⟩ := hf.follows hk hp
    rcases hr : u.result with fault | ⟨⟩
    · exact ⟨u, hu.mono (.inr (by simp [hr])) le_self_add⟩
    · simp only [Outcome.andThen?, first.result, hr, first.machine, Option.map_eq_some_iff] at hop
      obtain ⟨q, hq, -⟩ := hop
      obtain ⟨v, hv⟩ := hg.walks (m := m.withState u.state) first.sink hq
      exact ⟨_, hu.add hr hv⟩

/-- What only writes adds nothing to the budget. -/
theorem andThen {g : Machine → σ → Outcome σ} (hf : Spends b f)
    (hg : ∀ m k, Accepting k → (g m k).Follows m (.stay m.state)) :
    Spends b fun m k => (f m k).map (·.andThen g) := by
  have h := hf.andThen? (nothing hg)
  rw [add_zero] at h
  simpa only [Outcome.map_andThen] using h

end Spends

theorem follows_stay {o : Outcome σ} {m : Machine} {k : σ} (h : o.EndsIn (.ok ()) m k)
    (hk : Accepting k) : o.Follows m (.stay m.state) :=
  ⟨h.result, h.machine, h.sink ▸ hk⟩

namespace Machine

variable {m : Machine} {k : σ}

theorem note_follows (e : Event) (hk : Accepting k) : (m.note e k).Follows m (.stay m.state) :=
  ⟨rfl, rfl, hk⟩

theorem say_follows (text : String) (hk : Accepting k) :
    (m.say text k).Follows m (.stay m.state) :=
  follows_stay (say_endsIn (hk.write text)) (hk.after_write text)

theorem flush_follows (hk : Accepting k) : (m.flush k).Follows m (.stay m.state) :=
  follows_stay (flush_endsIn hk.flush) hk.after_flush

theorem stepUpTo_follows (n : ℕ) (hk : Accepting k) :
    (m.stepUpTo n k).Follows m (m.state.walk n) := by
  obtain ⟨k', hd, hk'⟩ := hk.deliver (m.state.walk n).printed
  have ends := stepUpTo_of_delivered hd
  exact ⟨ends.result, ends.machine, ends.sink ▸ hk'⟩

theorem stopped_stepUpTo_iff (n : ℕ) (hk : Accepting k) :
    (m.stepUpTo n k).Stopped ↔ (m.state.walk n).Stopped := by
  have follows := stepUpTo_follows (m := m) n hk
  rw [Outcome.Stopped, follows.machine, follows.result]
  exact Iff.rfl

theorem spends_stepUpTo (n : ℕ) : Spends n fun m (k : σ) => some (m.stepUpTo n k) where
  ends {m k w} hk hw := by
    obtain rfl := hw.unique (State.walksOn_natCast n m.state)
    exact ⟨_, rfl, stepUpTo_follows n hk⟩
  walks {m _ _} _ _ := ⟨_, State.walksOn_natCast n m.state⟩

theorem spends_runToHalt : Spends ⊤ (runToHalt (σ := σ)) where
  ends {m k w} hk hw := by
    obtain ⟨k', hd, hk'⟩ := hk.deliver w.printed
    obtain ⟨o, ho, ends⟩ := runToHalt_of_delivered (State.walksOn_top_iff.1 hw) hd
    exact ⟨o, ho, ends.result, ends.machine, ends.sink ▸ hk'⟩
  walks {m k o} hk ho := by
    have taken (vs : List UInt8) : (deliver vs k).1 = .ok () := by
      obtain ⟨k', hd, -⟩ := hk.deliver vs
      rw [hd]
    obtain ⟨w, hw⟩ := finishes_of_runToHalt taken ho
    exact ⟨w, State.walksOn_top_iff.2 hw⟩

theorem spends_done : Spends 0 fun m (k : σ) => some (.done m k) := by
  refine .nothing ?_
  intro m k hk
  exact ⟨rfl, rfl, hk⟩

/-- Saying something about the machine spends nothing. -/
theorem spends_say (text : Machine → String) :
    Spends 0 fun m (k : σ) => some (m.say (text m) k) := by
  refine .nothing ?_
  intro m k hk
  exact say_follows (text m) hk

theorem spends_run : Spends ⊤ (run (σ := σ)) := by
  have noted : Spends 0 fun m (k : σ) => some (note .running m k) := by
    refine .nothing ?_
    intro m k hk
    exact note_follows .running hk
  have flushed (m : Machine) (k : σ) (hk : Accepting k) : (m.flush k).Follows m (.stay m.state) :=
    flush_follows hk
  have h := (noted.andThen? spends_runToHalt).andThen flushed
  rw [zero_add] at h
  exact h

end Machine

/-! ## Requests -/

namespace Debugger

/-- The steps that a request asks for. -/
def Request.budget : Request → ℕ∞
  | .command ⟨.step, arguments⟩ =>
    match arguments[0]? with
    | none => 1
    | some text =>
      match readNumber? text with
      | some n => n
      | none => 0
  | .command ⟨.resume, _⟩ => ⊤
  | _ => 0

/-- The steps that requests ask for, up to the first that is the last one. -/
def total (requests : List Request) : ℕ∞ :=
  ((requests.takeWhile fun request => !request.isLast).map Request.budget).sum

@[simp] theorem total_nil : total [] = 0 := rfl

theorem total_cons (request : Request) (requests : List Request) :
    total (request :: requests) =
      if request.isLast then 0 else request.budget + total requests := by
  by_cases h : request.isLast = true <;> simp [total, h]

theorem sayAll_follows (texts : List String) {m : Machine} {k : σ} (hk : Accepting k) :
    (sayAll texts m k).Follows m (.stay m.state) := by
  induction texts generalizing k with
  | nil => exact ⟨rfl, rfl, hk⟩
  | cons text texts ih => exact (Machine.say_follows text hk).andThen fun _ hk' => ih hk'

/-- What comes next can be shown for nothing. -/
theorem spends_thenShow {b : ℕ∞} {f : Machine → σ → Option (Outcome σ)} (h : Spends b f) :
    Spends b fun m k => (f m k).map (·.andThen showNext) := by
  refine h.andThen ?_
  intro m k hk
  exact Machine.say_follows _ hk

theorem spends_step (arguments : List String) :
    Spends (Request.command ⟨.step, arguments⟩).budget
      fun m (k : σ) => some (step arguments m k) := by
  rcases ha : arguments[0]? with _ | text
  · have h := spends_thenShow (Machine.spends_stepUpTo (σ := σ) 1)
    simpa [step, numberOr, Request.budget, ha] using h
  · rcases hn : readNumber? text with _ | n
    · have h := Machine.spends_say (σ := σ) fun _ => complaintLine (.invalidNumber text)
      simpa [step, complain, numberOr, readNumber, Request.budget, ha, hn] using h
    · have h := spends_thenShow (Machine.spends_stepUpTo (σ := σ) n)
      simpa [step, numberOr, readNumber, Request.budget, ha, hn] using h

theorem spends_dump (arguments : List String) :
    Spends 0 fun m (k : σ) => some (dump arguments m k) := by
  refine .nothing ?_
  intro m k hk
  rcases hd : dumpRange m.state arguments with c | ⟨start, length⟩
  · rw [dump, hd]
    exact Machine.say_follows _ hk
  · rw [dump, hd]
    exact sayAll_follows _ hk

/-- A command makes the steps that it asks for. -/
theorem spends_perform (c : Command) : Spends (Request.command c).budget (perform (σ := σ) c) := by
  obtain ⟨verb, arguments⟩ := c
  cases verb with
  | step => exact spends_step arguments
  | resume => exact spends_thenShow Machine.spends_run
  | registers => exact Machine.spends_say fun m => m.state.report ++ "\n"
  | dump => exact spends_dump arguments
  | trace => exact Machine.spends_say fun m => m.state.snapshot.text ++ "\n"
  | quit => exact Machine.spends_done

/-- A request makes the steps that it asks for. -/
theorem spends_answer (request : Request) :
    Spends request.budget (answer (σ := σ) request) := by
  cases request with
  | idle => exact Machine.spends_done
  | command c => exact spends_perform c
  | complaint c => exact Machine.spends_say fun _ => complaintLine c
  | leave reason =>
    cases reason with
    | none => exact Machine.spends_done
    | some c => exact Machine.spends_say fun _ => complaintLine c

theorem Request.budget_of_isLast {request : Request} (h : request.isLast = true) :
    request.budget = 0 := by
  cases request with
  | leave reason => rfl
  | _ => simp [isLast] at h

/-- Requests make the steps that they ask for, one after the other. -/
theorem spends_answerAll (requests : List Request) :
    Spends (total requests) (answerAll (σ := σ) requests) := by
  induction requests with
  | nil => exact Machine.spends_done
  | cons request requests ih =>
    have first := spends_answer (σ := σ) request
    rcases last : request.isLast
    · rw [answerAll_of_more last, total_cons, if_neg (by simp [last])]
      exact first.andThen? ih
    · rw [answerAll_of_last last, total_cons, if_pos last, ← Request.budget_of_isLast last]
      exact first

/-! ## Sessions -/

/-- The steps that the lines of a script ask for. -/
def budget (lines : List ScriptLine) : ℕ∞ := total (lines.map Request.ofLine)

theorem spends_session (lines : List ScriptLine) :
    Spends (budget lines) (session (σ := σ) lines) := by
  have begun : Spends 0 fun m (k : σ) => some (beginSession m k) := by
    refine .nothing ?_
    intro m k hk
    refine (Machine.note_follows .debuggerStarted hk).andThen ?_
    intro k' hk'
    exact Machine.say_follows _ hk'
  have ended (m : Machine) (k : σ) (hk : Accepting k) :
      (endSession m k).Follows m (.stay m.state) := by
    refine (Machine.note_follows .debuggerLeft hk).andThen ?_
    intro k' hk'
    exact Machine.flush_follows hk'
  have h := (begun.andThen? (spends_answerAll (lines.map Request.ofLine))).andThen ended
  rw [zero_add] at h
  exact h

/-- Lines that do not leave add up. -/
theorem budget_append {block : List ScriptLine}
    (h : ∀ line ∈ block, (Request.ofLine line).isLast = false) (lines : List ScriptLine) :
    budget (block ++ lines) = budget block + budget lines := by
  induction block with
  | nil => exact (zero_add _).symm
  | cons line block ih =>
    have stays : ¬(Request.ofLine line).isLast = true := by simp [h line (by simp)]
    have others : ∀ l ∈ block, (Request.ofLine l).isLast = false := by
      intro l hl
      exact h l (by simp [hl])
    have rest := ih others
    simp only [budget, List.cons_append, List.map_cons, total_cons, if_neg stays] at rest ⊢
    rw [rest, add_assoc]

/-- Lines in front do not tell scripts of one budget apart. -/
theorem budget_append_congr (before : List ScriptLine) {lines lines' : List ScriptLine}
    (h : budget lines = budget lines') : budget (before ++ lines) = budget (before ++ lines') := by
  induction before with
  | nil => exact h
  | cons line before ih =>
    simp only [budget, List.cons_append, List.map_cons, total_cons] at ih ⊢
    rw [ih]

section Endings

variable {τ : Type} [Sink τ] {k : σ} {k' : τ} {m : Machine} {lines lines' : List ScriptLine}

/-- A session ends as plain steps on its budget do. -/
theorem ending_eq_some_iff (hk : Accepting k) (hk' : Accepting k') {result : Except Fault Unit}
    {m' : Machine} :
    (session lines m k).map Outcome.ending = some (result, m') ↔
      Machine.EndsOn (budget lines) m k' result m' := by
  rw [Option.map_eq_some_iff, Machine.endsOn_iff hk']
  constructor
  · rintro ⟨o, ho, ending⟩
    obtain ⟨w, hw, follows⟩ := (spends_session lines).follows hk ho
    obtain ⟨rfl, rfl⟩ := Prod.mk.inj ending
    exact ⟨w, hw, follows.result.symm, follows.machine⟩
  · rintro ⟨w, hw, rfl, rfl⟩
    obtain ⟨o, ho, follows⟩ := (spends_session lines).ends hk hw
    exact ⟨o, ho, Prod.ext follows.result follows.machine⟩

theorem ending_eq_of_budget_eq (hk : Accepting k) (h : budget lines = budget lines') :
    (session lines m k).map Outcome.ending = (session lines' m k).map Outcome.ending := by
  refine Option.ext fun ⟨result, m'⟩ => ?_
  rw [ending_eq_some_iff hk hk, ending_eq_some_iff hk hk, h]

/-- A budget that is more than enough can be replaced by any other that is. -/
theorem ending_eq_of_stopped (hk : Accepting k) {n : ℕ} (stopped : (m.state.walk n).Stopped)
    (h : (n : ℕ∞) ≤ budget lines) (h' : (n : ℕ∞) ≤ budget lines') :
    (session lines m k).map Outcome.ending = (session lines' m k).map Outcome.ending := by
  have enough (b : ℕ∞) (hb : (n : ℕ∞) ≤ b) :
      Machine.EndsOn b m k (m.state.walk n).result (m.withState (m.state.walk n).state) :=
    Machine.endsOn_of_walk hk hb (.inr stopped)
  rw [(ending_eq_some_iff hk hk).2 (enough _ h), (ending_eq_some_iff hk hk).2 (enough _ h')]

/-- The debugger is transparent. A session ends exactly if plain steps on the budget of its lines
come to an end, and what becomes of the machine is the same. So two sessions end alike if their
budgets are equal, or if the machine stops within both of them; and nothing changes if some lines
that do not leave are replaced by others that ask for as many steps in all. -/
theorem session_ends_as_steps (hk : Accepting k) (hk' : Accepting k') (m : Machine)
    (lines : List ScriptLine) :
    (∀ result m', (session lines m k).map Outcome.ending = some (result, m') ↔
      Machine.EndsOn (budget lines) m k' result m') ∧
    (∀ lines', (budget lines = budget lines' ∨
        ∃ n : ℕ, (m.stepUpTo n k').Stopped ∧ (n : ℕ∞) ≤ budget lines ∧ (n : ℕ∞) ≤ budget lines') →
      (session lines m k).map Outcome.ending = (session lines' m k).map Outcome.ending) ∧
    ∀ before block block' after, lines = before ++ (block ++ after) →
      (∀ line ∈ block ++ block', (Request.ofLine line).isLast = false) →
      budget block = budget block' →
      (session lines m k).map Outcome.ending =
        (session (before ++ (block' ++ after)) m k).map Outcome.ending := by
  refine ⟨?_, ?_, ?_⟩
  · intro result m'
    exact ending_eq_some_iff hk hk'
  · rintro lines' (same | ⟨n, stopped, h, h'⟩)
    · exact ending_eq_of_budget_eq hk same
    · exact ending_eq_of_stopped hk ((Machine.stopped_stepUpTo_iff n hk').1 stopped) h h'
  · rintro before block block' after rfl stay same
    have stay₁ : ∀ line ∈ block, (Request.ofLine line).isLast = false := by
      intro line hl
      exact stay line (List.mem_append_left _ hl)
    have stay₂ : ∀ line ∈ block', (Request.ofLine line).isLast = false := by
      intro line hl
      exact stay line (List.mem_append_right _ hl)
    refine ending_eq_of_budget_eq hk (budget_append_congr before ?_)
    rw [budget_append stay₁, budget_append stay₂, same]

end Endings

/-- A machine that loads a value, prints it and halts. -/
def printsEight : Machine :=
  ⟨⟨false, false, true⟩, .start (Memory.zero.overlay [0x82, 0, 8, 0x47, 0, 0x01])⟩

/-- Three steps in two commands bring it to the halt, and so does one command without end. -/
theorem printsEight_sessions_end_alike :
    ∃ m', m'.halted = true ∧
      (session [.text "step", .text "regs", .text "s 0x2"] printsEight LineSink.unlimited).map
        Outcome.ending = some (.ok (), m') ∧
      (session [.text "next", .text "continue", .text "quit", .text "step"] printsEight
        LineSink.unlimited).map Outcome.ending = some (.ok (), m') := by
  have step : Request.ofLine (.text "step") = .command ⟨.step, []⟩ := by decide +kernel
  have regs : Request.ofLine (.text "regs") = .command ⟨.registers, []⟩ := by decide +kernel
  have twice : Request.ofLine (.text "s 0x2") = .command ⟨.step, ["0x2"]⟩ := by decide +kernel
  have two : readNumber? "0x2" = some 2 := by decide +kernel
  have next : Request.ofLine (.text "next") = .complaint (.unknownCommand "next") := by
    decide +kernel
  have continue' : Request.ofLine (.text "continue") = .command ⟨.resume, []⟩ := by decide +kernel
  have quit : Request.ofLine (.text "quit") = .leave none := by decide +kernel
  have three : budget [.text "step", .text "regs", .text "s 0x2"] = (3 : ℕ) := by
    have sum : (1 : ℕ∞) + 2 = 3 := rfl
    simp [budget, total, Request.isLast, Request.budget, step, regs, twice, two, sum]
  have endless : budget [.text "next", .text "continue", .text "quit", .text "step"] = ⊤ := by
    simp [budget, total, Request.isLast, Request.budget, next, continue', quit]
  have halted : (printsEight.state.walk 3).state.halted = true := by decide +kernel
  have ok : (printsEight.state.walk 3).result = .ok () := by decide +kernel
  have stopped : (printsEight.stepUpTo 3 LineSink.unlimited).Stopped :=
    (Machine.stopped_stepUpTo_iff 3 accepting_unlimited).2 (.inl halted)
  obtain ⟨ends, alike, -⟩ := session_ends_as_steps accepting_unlimited accepting_unlimited
    printsEight [.text "step", .text "regs", .text "s 0x2"]
  have steps := Machine.endsOn_of_walk (m := printsEight) (n := 3) accepting_unlimited le_rfl
    (.inl rfl)
  rw [ok, ← three] at steps
  have first := (ends _ _).2 steps
  refine ⟨_, (Machine.halted_withState printsEight _).trans halted, first, ?_⟩
  rw [← alike _ (.inr ⟨3, stopped, three.ge, endless ▸ le_top⟩), first]

end Debugger

end ByteMachine
