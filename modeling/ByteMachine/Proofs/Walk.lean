import ByteMachine.Instruction.Effect

/-!
# Walks

A walk is what a number of steps of a state comes to when nothing that it prints is refused. It ends
early where the state has halted or has no next state; then it has stopped, and more steps do not
change it. A walk knows of no sink and of no log: it is what all machines in that state have in
common.
-/
namespace ByteMachine

/-- A result, the state at the end and the values printed on the way. -/
@[ext] structure Walk where
  result : Except Fault Unit
  state : State
  printed : List UInt8

namespace Walk

/-- The walk that goes nowhere. -/
def stay (s : State) : Walk := ⟨.ok (), s, []⟩

/-- There is nothing left to do. -/
def Stopped (w : Walk) : Prop := w.state.halted = true ∨ w.result ≠ .ok ()

/-- The walk with more values printed before it. -/
def printAfter (w : Walk) (vs : List UInt8) : Walk := { w with printed := vs ++ w.printed }

@[simp] theorem result_printAfter (w : Walk) (vs : List UInt8) :
    (w.printAfter vs).result = w.result := rfl

@[simp] theorem state_printAfter (w : Walk) (vs : List UInt8) :
    (w.printAfter vs).state = w.state := rfl

@[simp] theorem printed_printAfter (w : Walk) (vs : List UInt8) :
    (w.printAfter vs).printed = vs ++ w.printed := rfl

@[simp] theorem stopped_printAfter (w : Walk) (vs : List UInt8) :
    (w.printAfter vs).Stopped ↔ w.Stopped := Iff.rfl

@[simp] theorem printAfter_nil (w : Walk) : w.printAfter [] = w := rfl

theorem printAfter_printAfter (w : Walk) (us vs : List UInt8) :
    (w.printAfter vs).printAfter us = w.printAfter (us ++ vs) := by
  simp [printAfter]

theorem not_stopped_iff {w : Walk} : ¬w.Stopped ↔ w.state.halted = false ∧ w.result = .ok () := by
  simp [Stopped]

end Walk

namespace State

/-- Up to `n` steps from a state. -/
def walk : Nat → State → Walk
  | 0, s => .stay s
  | n + 1, s =>
    if s.halted then .stay s
    else
      match s.next with
      | .error fault => ⟨.error fault, s, []⟩
      | .ok s' => (walk n s').printAfter s.printed?.toList

variable {s s' : State}

@[simp] theorem walk_zero (s : State) : s.walk 0 = .stay s := rfl

theorem walk_of_halted (h : s.halted = true) (n : Nat) : s.walk n = .stay s := by
  cases n with
  | zero => rfl
  | succ n => rw [walk, if_pos h]

theorem walk_of_next_error {fault : Fault} (h : s.halted = false) (hn : s.next = .error fault)
    (n : Nat) : s.walk (n + 1) = ⟨.error fault, s, []⟩ := by
  simp [walk, h, hn]

theorem walk_of_next_ok (h : s.halted = false) (hn : s.next = .ok s') (n : Nat) :
    s.walk (n + 1) = (s'.walk n).printAfter s.printed?.toList := by
  simp [walk, h, hn]

/-- A walk that has stopped is not prolonged by more steps. -/
theorem walk_add_of_stopped {n : Nat} (h : (s.walk n).Stopped) (d : Nat) :
    s.walk (n + d) = s.walk n := by
  induction n generalizing s with
  | zero =>
    have halted : s.halted = true := h.resolve_right (by simp [Walk.stay])
    rw [walk_of_halted halted, walk_of_halted halted]
  | succ n ih =>
    by_cases halted : s.halted = true
    · rw [walk_of_halted halted, walk_of_halted halted]
    have running : s.halted = false := by simpa using halted
    rw [Nat.add_right_comm]
    rcases hn : s.next with fault | s'
    · rw [walk_of_next_error running hn, walk_of_next_error running hn]
    · rw [walk_of_next_ok running hn] at h ⊢
      rw [walk_of_next_ok running hn, ih h]

/-- A walk that has not stopped goes on from where it is. -/
theorem walk_add {n : Nat} (h : ¬(s.walk n).Stopped) (d : Nat) :
    s.walk (n + d) = ((s.walk n).state.walk d).printAfter (s.walk n).printed := by
  induction n generalizing s with
  | zero => simp [Walk.stay]
  | succ n ih =>
    by_cases halted : s.halted = true
    · exact absurd (.inl (by simpa [walk_of_halted halted, Walk.stay] using halted)) h
    have running : s.halted = false := by simpa using halted
    rcases hn : s.next with fault | s'
    · exact absurd (.inr (by simp [walk_of_next_error running hn])) h
    · rw [walk_of_next_ok running hn] at h ⊢
      rw [Nat.add_right_comm, walk_of_next_ok running hn, ih h, Walk.printAfter_printAfter]
      rfl

theorem walk_of_le_of_stopped {a b : Nat} (hab : a ≤ b) (ha : (s.walk a).Stopped) :
    s.walk b = s.walk a := by
  obtain ⟨d, rfl⟩ := Nat.exists_eq_add_of_le hab
  exact walk_add_of_stopped ha d

/-- A state stops in one way only. -/
theorem walk_eq_of_stopped {a b : Nat} (ha : (s.walk a).Stopped) (hb : (s.walk b).Stopped) :
    s.walk a = s.walk b := by
  rcases Nat.le_total a b with h | h
  · exact (walk_of_le_of_stopped h ha).symm
  · exact walk_of_le_of_stopped h hb

/-- Every printed value has a place on the walk: the state that has printed the values before it and
is about to print it. -/
theorem exists_walk_of_printed {n : Nat} {us vs : List UInt8} {v : UInt8}
    (h : (s.walk n).printed = us ++ v :: vs) :
    ∃ i < n, ¬(s.walk i).Stopped ∧ (s.walk i).printed = us ∧
      (s.walk i).state.printed? = some v := by
  induction n generalizing s us with
  | zero => simp [Walk.stay] at h
  | succ n ih =>
    by_cases halted : s.halted = true
    · simp [walk_of_halted halted, Walk.stay] at h
    have running : s.halted = false := by simpa using halted
    rcases hn : s.next with fault | s'
    · simp [walk_of_next_error running hn] at h
    rw [walk_of_next_ok running hn, Walk.printed_printAfter] at h
    -- The place is here if the first value is the one in question, else behind the first step.
    have later (us' : List UInt8) (h' : (s'.walk n).printed = us' ++ v :: vs)
        (hus : us = s.printed?.toList ++ us') :
        ∃ i < n + 1, ¬(s.walk i).Stopped ∧ (s.walk i).printed = us ∧
          (s.walk i).state.printed? = some v := by
      obtain ⟨i, hi, going, printed, value⟩ := ih h'
      refine ⟨i + 1, by omega, ?_⟩
      rw [walk_of_next_ok running hn]
      exact ⟨going, by rw [Walk.printed_printAfter, printed, hus], value⟩
    rcases hp : s.printed? with _ | u
    · exact later us (by simpa [hp] using h) (by simp [hp])
    · rw [hp, Option.toList_some, List.singleton_append] at h
      cases us with
      | nil =>
        obtain ⟨rfl, -⟩ : u = v ∧ _ := by simpa using h
        exact ⟨0, by omega, by simp [Walk.stay, Walk.not_stopped_iff, running], rfl, hp⟩
      | cons u' us =>
        obtain ⟨rfl, h'⟩ : u = u' ∧ _ := by simpa using h
        exact later us h' (by simp [hp])

/-- A walk that has failed stands at a state without a next state. -/
theorem running_of_walk_error {n : Nat} {fault : Fault} (h : (s.walk n).result = .error fault) :
    (s.walk n).state.halted = false ∧ (s.walk n).state.next = .error fault := by
  induction n generalizing s with
  | zero => simp [Walk.stay] at h
  | succ n ih =>
    by_cases halted : s.halted = true
    · simp [walk_of_halted halted, Walk.stay] at h
    have running : s.halted = false := by simpa using halted
    rcases hn : s.next with fault' | s'
    · rw [walk_of_next_error running hn] at h ⊢
      obtain rfl : fault' = fault := by simpa using h
      exact ⟨running, hn⟩
    · rw [walk_of_next_ok running hn] at h ⊢
      exact ih h

/-! ## Walks to the end -/

/-- The walk of a state stops, as `w`. -/
def Finishes (s : State) (w : Walk) : Prop := ∃ n, s.walk n = w ∧ w.Stopped

/-- Where a walk has stopped, another one stops at once, in the same way. -/
theorem Finishes.again {w : Walk} (h : s.Finishes w) :
    w.state.Finishes ⟨w.result, w.state, []⟩ := by
  obtain ⟨n, rfl, stopped⟩ := h
  refine ⟨1, ?_, stopped⟩
  rcases hr : (s.walk n).result with fault | ⟨⟩
  · obtain ⟨running, hn⟩ := running_of_walk_error hr
    exact walk_of_next_error running hn 0
  · have halted : (s.walk n).state.halted = true := stopped.resolve_right (by simp [hr])
    exact walk_of_halted halted 1

/-- What is left of a walk to the end. -/
theorem Finishes.rest {w : Walk} (h : s.Finishes w) {i : Nat} (hi : ¬(s.walk i).Stopped) :
    ∃ u, (s.walk i).state.Finishes u ∧ w = u.printAfter (s.walk i).printed := by
  obtain ⟨n, rfl, stopped⟩ := h
  have hin : i ≤ n := by
    rcases Nat.le_total i n with hle | hle
    · exact hle
    · exact absurd (by rwa [walk_of_le_of_stopped hle stopped]) hi
  obtain ⟨d, rfl⟩ := Nat.exists_eq_add_of_le hin
  rw [walk_add hi] at stopped ⊢
  exact ⟨_, ⟨d, rfl, stopped⟩, rfl⟩

end State

end ByteMachine
