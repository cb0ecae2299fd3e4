import Mathlib.Data.ENat.Basic
import ByteMachine.Proofs.Delivery

/-!
# Budgets of steps

A budget is a number of steps or without end. Steps are made on it until it is spent, but a machine
that stops leaves the rest. With a sink that takes everything, how the steps end is told by the walk
of the state: a budget leads to one end at most, and two budgets that are spent one after the other
lead where their sum does.
-/
namespace ByteMachine

/-! ## Sinks that take everything -/

/-- The sink takes every text and every flush, now and after whatever has been written to it. -/
def Accepting {σ : Type} [Sink σ] (k : σ) : Prop :=
  ∃ P : σ → Prop, P k ∧ ∀ k, P k →
    (∀ text, (Sink.write k text).1 = .ok () ∧ P (Sink.write k text).2) ∧
      (Sink.flush k).1 = .ok () ∧ P (Sink.flush k).2

namespace Accepting

variable {σ : Type} [Sink σ] {k : σ}

theorem write (h : Accepting k) (text : String) : (Sink.write k text).1 = .ok () := by
  obtain ⟨P, hk, next⟩ := h
  exact ((next k hk).1 text).1

theorem after_write (h : Accepting k) (text : String) : Accepting (Sink.write k text).2 := by
  obtain ⟨P, hk, next⟩ := h
  exact ⟨P, ((next k hk).1 text).2, next⟩

theorem flush (h : Accepting k) : (Sink.flush k).1 = .ok () := by
  obtain ⟨P, hk, next⟩ := h
  exact (next k hk).2.1

theorem after_flush (h : Accepting k) : Accepting (Sink.flush k).2 := by
  obtain ⟨P, hk, next⟩ := h
  exact ⟨P, (next k hk).2.2, next⟩

theorem deliver (h : Accepting k) (vs : List UInt8) :
    ∃ k', ByteMachine.deliver vs k = (.ok (), k') ∧ Accepting k' := by
  induction vs generalizing k with
  | nil => exact ⟨k, rfl, h⟩
  | cons v vs ih =>
    obtain ⟨k', hd, hk'⟩ := ih (h.after_write (printedLine v))
    exact ⟨k', (deliver_of_accepted (Prod.ext (h.write _) rfl) vs).trans hd, hk'⟩

end Accepting

theorem accepting_unlimited : Accepting LineSink.unlimited := by
  refine ⟨fun k => k.room = none ∧ k.flushFails = false, ⟨rfl, rfl⟩, ?_⟩
  rintro k ⟨room, flushes⟩
  refine ⟨fun text => ?_, ?_, room, flushes⟩
  · simp [Sink.write, room, flushes]
  · simp [Sink.flush, LineSink.flush, flushes]

/-! ## Plain steps on a budget -/

section Steps

variable {σ : Type} [Sink σ]

/-- How a machine ends that is stepped on a budget. -/
inductive Machine.EndsOn : ℕ∞ → Machine → σ → Except Fault Unit → Machine → Prop
  /-- The budget is spent. -/
  | spent (m : Machine) (k : σ) : EndsOn 0 m k (.ok ()) m
  /-- The machine has halted, whatever is left. -/
  | halted {m : Machine} (h : m.halted = true) (b : ℕ∞) (k : σ) : EndsOn b m k (.ok ()) m
  /-- A step fails. -/
  | failed {m : Machine} {k : σ} {fault : Fault} (h : m.halted = false)
      (hs : (m.step k).result = .error fault) (b : ℕ∞) :
      EndsOn (b + 1) m k (.error fault) (m.step k).machine
  /-- A step succeeds, and there are more to come. -/
  | stepped {m m' : Machine} {k : σ} {result : Except Fault Unit} {b : ℕ∞}
      (h : m.halted = false) (hs : (m.step k).result = .ok ())
      (rest : EndsOn b (m.step k).machine (m.step k).sink result m') :
      EndsOn (b + 1) m k result m'

end Steps

/-! ## Walks on a budget -/

namespace State

variable {s s' : State} {w w' u : Walk} {a b : ℕ∞}

/-- The state walks as far as the budget goes, unless it stops earlier. -/
def WalksOn (b : ℕ∞) (s : State) (w : Walk) : Prop :=
  ∃ n : ℕ, s.walk n = w ∧ (n : ℕ∞) ≤ b ∧ ((n : ℕ∞) = b ∨ w.Stopped)

theorem walksOn_natCast (n : ℕ) (s : State) : s.WalksOn n (s.walk n) := ⟨n, rfl, le_rfl, .inl rfl⟩

theorem walksOn_top_iff : s.WalksOn ⊤ w ↔ s.Finishes w := by
  constructor
  · rintro ⟨n, hn, -, spent | stopped⟩
    · exact absurd spent (ENat.natCast_ne_top n)
    · exact ⟨n, hn, stopped⟩
  · rintro ⟨n, hn, stopped⟩
    exact ⟨n, hn, le_top, .inr stopped⟩

/-- A budget leads to one end at most. -/
theorem WalksOn.unique (h : s.WalksOn b w) (h' : s.WalksOn b w') : w = w' := by
  obtain ⟨n, rfl, hn, end₁⟩ := h
  obtain ⟨n', rfl, hn', end₂⟩ := h'
  rcases end₁ with rfl | stopped
  · rcases end₂ with spent' | stopped'
    · rw [Nat.cast_injective spent']
    · exact walk_of_le_of_stopped (Nat.cast_le.1 hn') stopped'
  · rcases end₂ with rfl | stopped'
    · exact (walk_of_le_of_stopped (Nat.cast_le.1 hn) stopped).symm
    · exact walk_eq_of_stopped stopped stopped'

/-- A state that has stopped leaves what is added to the budget. -/
theorem WalksOn.mono (h : s.WalksOn a w) (stopped : w.Stopped) (hab : a ≤ b) : s.WalksOn b w := by
  obtain ⟨n, hn, hle, -⟩ := h
  exact ⟨n, hn, hle.trans hab, .inr stopped⟩

/-- Budgets are spent one after the other. -/
theorem WalksOn.add (h : s.WalksOn a w) (ok : w.result = .ok ()) (h' : w.state.WalksOn b u) :
    s.WalksOn (a + b) (u.printAfter w.printed) := by
  by_cases stopped : w.Stopped
  · have halted : w.state.halted = true := stopped.resolve_right (by simp [ok])
    have stays : u = .stay w.state := by
      obtain ⟨d, rfl, -⟩ := h'
      exact walk_of_halted halted d
    have same : u.printAfter w.printed = w := by
      rw [stays]
      exact Walk.ext ok.symm rfl (List.append_nil _)
    rw [same]
    exact h.mono stopped le_self_add
  · obtain ⟨n, rfl, hn, rfl | absurdity⟩ := h
    · obtain ⟨d, rfl, hd, end'⟩ := h'
      refine ⟨n + d, walk_add stopped d, ?_, ?_⟩
      · push_cast
        exact add_le_add_right hd _
      · push_cast
        exact end'.imp (fun e => by rw [e]) id
    · exact absurd absurdity stopped

theorem WalksOn.exists_left (h : s.WalksOn (a + b) w) : ∃ u, s.WalksOn a u := by
  cases a using ENat.recTopCoe with
  | top => exact ⟨w, by rwa [top_add] at h⟩
  | coe n => exact ⟨_, walksOn_natCast n s⟩

theorem WalksOn.exists_right (h : s.WalksOn (a + b) w) (ha : s.WalksOn a u)
    (ok : u.result = .ok ()) : ∃ v, u.state.WalksOn b v := by
  cases b using ENat.recTopCoe with
  | top =>
    rw [add_top, walksOn_top_iff] at h
    by_cases stopped : u.Stopped
    · have halted : u.state.halted = true := stopped.resolve_right (by simp [ok])
      exact ⟨_, 0, rfl, le_top, .inr (.inl halted)⟩
    · obtain ⟨n, rfl, -⟩ := ha
      obtain ⟨v, hv, -⟩ := h.rest stopped
      exact ⟨v, walksOn_top_iff.2 hv⟩
  | coe n => exact ⟨_, walksOn_natCast n _⟩

theorem walksOn_of_halted (h : s.halted = true) (b : ℕ∞) : s.WalksOn b (.stay s) :=
  ⟨0, rfl, zero_le, .inr (.inl h)⟩

theorem walksOn_of_next_error {fault : Fault} (h : s.halted = false) (hn : s.next = .error fault)
    (b : ℕ∞) : s.WalksOn (b + 1) ⟨.error fault, s, []⟩ :=
  ⟨1, walk_of_next_error h hn 0, le_add_self, .inr (.inr (by simp))⟩

theorem WalksOn.step (h : s.halted = false) (hn : s.next = .ok s') (hw : s'.WalksOn b w) :
    s.WalksOn (b + 1) (w.printAfter s.printed?.toList) := by
  obtain ⟨n, rfl, hle, end'⟩ := hw
  refine ⟨n + 1, walk_of_next_ok h hn n, ?_, ?_⟩
  · push_cast
    exact add_le_add_left hle 1
  · push_cast
    exact end'.imp (fun e => by rw [e]) id

end State

/-! ## Plain steps are walks -/

namespace Machine

variable {σ : Type} [Sink σ] {m m' : Machine} {k : σ} {b : ℕ∞} {result : Except Fault Unit}

theorem step_of_accepting (hk : Accepting k) (h : m.halted = false) {s : State}
    (hn : m.state.next = .ok s) :
    ∃ k', (m.step k).EndsIn (.ok ()) (m.withState s) k' ∧ Accepting k' := by
  rcases hp : m.state.printed? with _ | v
  · exact ⟨k, step_of_silent h hn hp k, hk⟩
  · exact ⟨_, step_of_accepted h hn hp (Prod.ext (hk.write _) rfl), hk.after_write _⟩

theorem EndsOn.exists_walk (h : EndsOn b m k result m') (hk : Accepting k) :
    ∃ w, m.state.WalksOn b w ∧ w.result = result ∧ m' = m.withState w.state := by
  induction h with
  | spent m k => exact ⟨_, State.walksOn_natCast 0 m.state, rfl, rfl⟩
  | halted h b k => exact ⟨_, State.walksOn_of_halted h b, rfl, rfl⟩
  | @failed m k fault h hs b =>
    rcases hn : m.state.next with fault' | s
    · have he := step_of_next_error h hn k
      obtain rfl : fault' = fault := by simpa [he.result] using hs
      exact ⟨_, State.walksOn_of_next_error h hn b, rfl, he.machine⟩
    · obtain ⟨k', he, -⟩ := step_of_accepting hk h hn
      simp [he.result] at hs
  | @stepped m m' k result b h hs rest ih =>
    rcases hn : m.state.next with fault | s
    · simp [(step_of_next_error h hn k).result] at hs
    · obtain ⟨k', he, hk'⟩ := step_of_accepting hk h hn
      rw [he.machine, he.sink] at ih
      obtain ⟨w, hw, hr, hm⟩ := ih hk'
      exact ⟨_, hw.step h hn, hr, hm⟩

/-- A budget for one step more is a budget with one step on top. -/
theorem exists_eq_add_one {n : ℕ} (h : ((n + 1 : ℕ) : ℕ∞) ≤ b) :
    ∃ c, b = c + 1 ∧ (n : ℕ∞) ≤ c ∧ (((n + 1 : ℕ) : ℕ∞) = b → (n : ℕ∞) = c) := by
  obtain ⟨d, rfl⟩ := exists_add_of_le h
  refine ⟨n + d, ?_, le_self_add, ?_⟩
  · push_cast
    exact add_right_comm _ _ _
  · intro spent
    push_cast at spent
    rw [add_right_comm] at spent
    exact ENat.add_left_injective_of_ne_top ENat.one_ne_top spent

theorem endsOn_of_walk {n : ℕ} (hk : Accepting k) (hle : (n : ℕ∞) ≤ b)
    (end' : (n : ℕ∞) = b ∨ (m.state.walk n).Stopped) :
    EndsOn b m k (m.state.walk n).result (m.withState (m.state.walk n).state) := by
  induction n generalizing b m k with
  | zero =>
    rcases end' with rfl | stopped
    · exact .spent m k
    · have halted : m.halted = true := stopped.resolve_right (by simp [Walk.stay])
      exact .halted halted b k
  | succ n ih =>
    by_cases halted : m.halted = true
    · rw [State.walk_of_halted halted]
      exact .halted halted b k
    have running : m.halted = false := by simpa using halted
    obtain ⟨c, rfl, hle', spent⟩ := exists_eq_add_one hle
    rcases hn : m.state.next with fault | s
    · have he := step_of_next_error running hn k
      have failed := EndsOn.failed running he.result c
      rw [he.machine] at failed
      rw [State.walk_of_next_error running hn]
      exact failed
    · obtain ⟨k', he, hk'⟩ := step_of_accepting hk running hn
      rw [State.walk_of_next_ok running hn] at end' ⊢
      refine .stepped running he.result ?_
      rw [he.machine, he.sink]
      exact ih (m := m.withState s) hk' hle' (end'.imp spent id)

/-- Plain steps on a budget end as the walk of the state on that budget. -/
theorem endsOn_iff (hk : Accepting k) :
    EndsOn b m k result m' ↔
      ∃ w, m.state.WalksOn b w ∧ w.result = result ∧ m' = m.withState w.state := by
  constructor
  · intro h
    exact h.exists_walk hk
  · rintro ⟨w, ⟨n, rfl, hle, end'⟩, rfl, rfl⟩
    exact endsOn_of_walk hk hle end'

end Machine

end ByteMachine
