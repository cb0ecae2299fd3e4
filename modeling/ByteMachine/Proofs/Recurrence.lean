import Mathlib.SetTheory.Cardinal.Finite
import ByteMachine.Proofs.Budget
import ByteMachine.Proofs.Steps

/-!
# Recurrence

The cycles only count: how a state goes on is decided by the rest of it, its configuration. So a
machine that comes back to a configuration goes round for ever, and since there are only finitely
many configurations, a machine that goes on for ever comes back to one. There are as many of them
as there are contents of 266 bytes, the eight registers, the program counter, the flags and memory,
and a machine that has made so many steps and still goes on never ends.
-/
namespace ByteMachine

/-- All of a state that decides how it goes on, as long as it has not halted. -/
@[ext] structure Configuration where
  pc : UInt8
  registers : Registers
  flags : Flags
  memory : Memory
  deriving DecidableEq

namespace Configuration

/-- A byte is one of 256 numbers. -/
def byteEquiv : UInt8 ≃ Fin 256 where
  toFun := UInt8.toFin
  invFun := UInt8.ofFin
  left_inv _ := rfl
  right_inv _ := rfl

def registersEquiv : Registers ≃ (Register → UInt8) where
  toFun := Registers.read
  invFun f := ⟨Vector.ofFn f⟩
  left_inv rs := Registers.ext_read fun r => by simp [Registers.read]
  right_inv f := funext fun r => by simp [Registers.read]

def memoryEquiv : Memory ≃ (UInt8 → UInt8) where
  toFun := Memory.read
  invFun := Memory.ofFn
  left_inv _ := Memory.ext_read fun a => Memory.read_ofFn _ a
  right_inv f := funext fun a => Memory.read_ofFn f a

/-- A configuration is a byte for the program counter, eight for the registers, one for the flags
and one for each address. -/
def equiv : Configuration ≃ UInt8 × (Register → UInt8) × UInt8 × (UInt8 → UInt8) where
  toFun c := (c.pc, registersEquiv c.registers, c.flags.bits, memoryEquiv c.memory)
  invFun t := ⟨t.1, registersEquiv.symm t.2.1, ⟨t.2.2.1⟩, memoryEquiv.symm t.2.2.2⟩
  left_inv c := by simp
  right_inv t := by simp

instance : Finite UInt8 := .of_equiv _ byteEquiv.symm

instance : Finite Configuration := .of_equiv _ equiv.symm

theorem card_byte : Nat.card UInt8 = 256 := by
  rw [Nat.card_congr byteEquiv, Nat.card_fin]

theorem card_eq : Nat.card Configuration = 256 ^ 266 := by
  rw [Nat.card_congr equiv, Nat.card_prod, Nat.card_prod, Nat.card_prod, Nat.card_fun, Nat.card_fun,
    card_byte, Nat.card_fin, ← pow_succ', ← pow_add, ← pow_succ']

/-- Of more configurations than there are, two are the same. -/
theorem exists_lt_eq (f : ℕ → Configuration) :
    ∃ i j, i < j ∧ j ≤ Nat.card Configuration ∧ f i = f j := by
  by_contra none
  have injective : Function.Injective fun i : Fin (Nat.card Configuration + 1) => f i := by
    intro i j same
    by_contra ne
    rcases lt_or_gt_of_ne ne with lt | gt
    · exact none ⟨i, j, lt, Nat.le_of_lt_succ j.isLt, same⟩
    · exact none ⟨j, i, gt, Nat.le_of_lt_succ i.isLt, same.symm⟩
  have le := Nat.card_le_card_of_injective _ injective
  rw [Nat.card_fin] at le
  omega

end Configuration

/-! ## The count has no say -/

namespace State

/-- The state without what is counted and whether it has halted. -/
def configuration (s : State) : Configuration := ⟨s.pc, s.registers, s.flags, s.memory⟩

/-- The state with another count of cycles. -/
def withCycles (s : State) (c : UInt64) : State := { s with cycles := c }

variable {s t : State}

@[simp] theorem halted_withCycles (s : State) (c : UInt64) : (s.withCycles c).halted = s.halted :=
  rfl

theorem eq_withCycles (halted : t.halted = s.halted) (same : t.configuration = s.configuration) :
    t = s.withCycles t.cycles := by
  obtain ⟨pc, registers, flags, h, cycles, memory⟩ := t
  obtain ⟨rfl, rfl, rfl, rfl⟩ := Configuration.mk.inj same
  obtain rfl := halted
  rfl

end State

/-- An instruction that finds another count leaves another count and changes nothing else by it. -/
theorem Instruction.effect_withCycles (i : Instruction) (s : State) (c : UInt64) :
    i.effect (s.withCycles c) = (i.effect s).map (·.withCycles c) := by
  cases i with
  | halt => rfl
  | load target value =>
    rw [effect, effect]
    cases Register.ofByte target <;> rfl
  | print source =>
    rw [effect, effect]
    cases Register.ofByte source <;> rfl
  | alu op left right =>
    have same : op.apply left right (s.withCycles c).registers (s.withCycles c).flags =
        op.apply left right s.registers s.flags := rfl
    rw [effect, effect, same]
    cases op.apply left right s.registers s.flags <;> rfl
  | push source =>
    rw [effect, effect]
    cases Register.ofByte source <;> rfl
  | pop target =>
    rw [effect, effect, State.pop, State.pop]
    cases Register.ofByte target <;> rfl
  | jump condition target =>
    rw [effect, effect]
    have same : condition.holds (s.withCycles c).flags = condition.holds s.flags := rfl
    rw [same]
    split
    · cases Register.ofByte target <;> rfl
    · rfl

namespace State

variable {s t : State}

theorem next_withCycles (hs : s.halted = false) (c : UInt64) :
    (s.withCycles c).next = s.next.map (·.withCycles (c + 1)) := by
  rcases hf : s.fetch with fault | i
  · rw [next_of_fetch_error hs hf, next_of_fetch_error hs (s := s.withCycles c) hf]
    rfl
  · rw [next_of_fetch_ok hs hf, next_of_fetch_ok hs (s := s.withCycles c) hf,
      Instruction.effect_withCycles]
    cases i.effect s <;> rfl

/-- A walk stops with any count if it stops with one. -/
theorem stopped_walk_withCycles {n : Nat} {c : UInt64} :
    ((s.withCycles c).walk n).Stopped ↔ (s.walk n).Stopped := by
  induction n generalizing s c with
  | zero => simp [Walk.stay, Walk.Stopped]
  | succ n ih =>
    by_cases halted : s.halted = true
    · rw [walk_of_halted halted, walk_of_halted (s := s.withCycles c) halted]
      exact Iff.rfl
    have running : s.halted = false := by simpa using halted
    have hn := next_withCycles running c
    rcases hs : s.next with fault | u
    · rw [hs] at hn
      rw [walk_of_next_error running hs, walk_of_next_error (s := s.withCycles c) running hn]
      simp [Walk.Stopped]
    · rw [hs] at hn
      rw [walk_of_next_ok running hs, walk_of_next_ok (s := s.withCycles c) running hn,
        Walk.stopped_printAfter, Walk.stopped_printAfter]
      exact ih

/-! ## Walks that come back -/

theorem going_mono {i n : Nat} (h : ¬(s.walk n).Stopped) (hi : i ≤ n) : ¬(s.walk i).Stopped := by
  intro stopped
  rw [walk_of_le_of_stopped hi stopped] at h
  exact h stopped

theorem stopped_walk_succ {n : Nat} {fault : Fault} (going : ¬(s.walk n).Stopped)
    (hn : (s.walk n).state.next = .error fault) : (s.walk (n + 1)).Stopped := by
  have running := (Walk.not_stopped_iff.1 going).1
  rw [walk_add going 1, walk_of_next_error running hn]
  exact .inr (by simp)

theorem walk_succ_of_going {n : Nat} (going : ¬(s.walk n).Stopped)
    (hn : (s.walk n).state.next = .ok t) :
    (s.walk (n + 1)).result = .ok () ∧ (s.walk (n + 1)).state = t := by
  have running := (Walk.not_stopped_iff.1 going).1
  rw [walk_add going 1, walk_of_next_ok running hn]
  exact ⟨rfl, rfl⟩

/-- A state that comes back to its configuration never stops. The induction takes one round after
the other off the steps, because each round ends in a state that stops when the first one does. -/
theorem never_stops_of_round {p : Nat} (hp : 0 < p) (going : ¬(s.walk p).Stopped)
    (same : (s.walk p).state.configuration = s.configuration) (n : Nat) :
    ¬(s.walk n).Stopped := by
  have halted : (s.walk p).state.halted = s.halted := by
    have first := (Walk.not_stopped_iff.1 (going_mono going (Nat.zero_le p))).1
    rw [(Walk.not_stopped_iff.1 going).1]
    exact first.symm
  induction n using Nat.strong_induction_on with
  | _ n ih =>
    by_cases within : n ≤ p
    · exact going_mono going within
    obtain ⟨d, rfl⟩ := Nat.exists_eq_add_of_le (Nat.le_of_not_le within)
    rw [walk_add going, Walk.stopped_printAfter, eq_withCycles halted same,
      stopped_walk_withCycles]
    exact ih d (by omega)

theorem never_stops_of_recurs {i j : Nat} (hij : i < j) (going : ¬(s.walk j).Stopped)
    (same : (s.walk i).state.configuration = (s.walk j).state.configuration) (n : Nat) :
    ¬(s.walk n).Stopped := by
  have first := going_mono going (Nat.le_of_lt hij)
  obtain ⟨p, rfl⟩ := Nat.exists_eq_add_of_le (Nat.le_of_lt hij)
  rw [walk_add first] at going same
  have round := never_stops_of_round (by omega) going same.symm n
  intro stopped
  rw [← walk_of_le_of_stopped (Nat.le_add_left n i) stopped, walk_add first] at stopped
  exact round stopped

/-- A walk with more steps than there are configurations comes back to one of them. -/
theorem exists_recurrence (s : State) :
    ∃ i j, i < j ∧ j ≤ 256 ^ 266 ∧
      (s.walk i).state.configuration = (s.walk j).state.configuration := by
  rw [← Configuration.card_eq]
  exact Configuration.exists_lt_eq fun n => (s.walk n).state.configuration

end State

/-! ## Machines that go on -/

namespace Machine

variable {σ : Type} [Sink σ] {m : Machine} {k : σ} {n : Nat}

/-- As long as its state goes on, a machine whose sink takes everything is where its state is. -/
theorem steps_of_going (hk : Accepting k) (going : ¬(m.state.walk n).Stopped) :
    (m.steps k n).result = .ok () ∧ (m.steps k n).machine = m.withState (m.state.walk n).state ∧
      Accepting (m.steps k n).sink := by
  induction n with
  | zero => exact ⟨rfl, rfl, hk⟩
  | succ n ih =>
    have before := State.going_mono going (Nat.le_succ n)
    obtain ⟨-, there, accepting⟩ := ih before
    have running : (m.withState (m.state.walk n).state).halted = false :=
      (Walk.not_stopped_iff.1 before).1
    rw [steps_succ, there]
    rcases hn : (m.state.walk n).state.next with fault | s
    · exact absurd (State.stopped_walk_succ before hn) going
    · obtain ⟨k', ends, hk'⟩ := step_of_accepting accepting running hn
      refine ⟨ends.result, ?_, ?_⟩
      · rw [ends.machine, (State.walk_succ_of_going before hn).2]
        rfl
      · rwa [ends.sink]

/-- With a sink that takes everything, a machine goes on as long as its state does. -/
theorem goesOn_iff (hk : Accepting k) : m.GoesOn k n ↔ ¬(m.state.walk n).Stopped := by
  constructor
  · intro h
    induction n with
    | zero => exact Walk.not_stopped_iff.2 ⟨h.running 0 (Nat.le_refl 0), rfl⟩
    | succ n ih =>
      have before := ih (h.mono (Nat.le_succ n))
      obtain ⟨-, there, accepting⟩ := steps_of_going hk before
      have running : (m.withState (m.state.walk n).state).halted = false :=
        (Walk.not_stopped_iff.1 before).1
      have succeeded := h.succeeded (n + 1) (Nat.le_refl _)
      have runs := h.running (n + 1) (Nat.le_refl _)
      rw [steps_succ, there] at succeeded runs
      rcases hn : (m.state.walk n).state.next with fault | s
      · rw [(step_of_next_error running hn _).result] at succeeded
        exact absurd succeeded (by simp)
      · obtain ⟨k', ends, -⟩ := step_of_accepting accepting running hn
        obtain ⟨result, state⟩ := State.walk_succ_of_going before hn
        rw [ends.machine] at runs
        exact Walk.not_stopped_iff.2 ⟨state ▸ runs, result⟩
  · intro going
    refine ⟨?_, ?_⟩
    · intro i hi
      exact (steps_of_going hk (State.going_mono going hi)).1
    · intro i hi
      have here := State.going_mono going hi
      rw [(steps_of_going hk here).2.1]
      exact (Walk.not_stopped_iff.1 here).1

theorem configuration_steps (hk : Accepting k) (h : m.GoesOn k n) :
    (m.steps k n).machine.state.configuration = (m.state.walk n).state.configuration := by
  rw [(steps_of_going hk ((goesOn_iff hk).1 h)).2.1, state_withState]

/-- A machine that goes on for ever has no run that ends. -/
theorem run_eq_none_of_goesOn (hk : Accepting k) (h : ∀ n, m.GoesOn k n) : m.run k = none := by
  have taken (vs : List UInt8) : (deliver vs k).1 = .ok () := by
    obtain ⟨k', hd, -⟩ := hk.deliver vs
    rw [hd]
  rw [Option.eq_none_iff_forall_ne_some]
  intro o ho
  rw [run_eq] at ho
  obtain ⟨p, hp, -⟩ := Option.map_eq_some_iff.1 ho
  obtain ⟨w, n, rfl, stopped⟩ := finishes_of_runToHalt taken hp
  exact (goesOn_iff hk).1 (h n) stopped

/-- To go on for ever is to come back. With a sink that takes everything, a machine goes on for ever
if and only if it has the same configuration twice while it goes on; and there are so few
configurations that a machine which goes on for as many steps as there are goes on for ever, and a
run of it never ends. -/
theorem goes_on_for_ever_iff_recurs (hk : Accepting k) :
    ((∀ n, m.GoesOn k n) ↔ ∃ i j, i < j ∧ m.GoesOn k i ∧ m.GoesOn k j ∧
      (m.steps k i).machine.state.configuration = (m.steps k j).machine.state.configuration) ∧
    Nat.card Configuration = 256 ^ 266 ∧
    (m.GoesOn k (256 ^ 266) → (∀ n, m.GoesOn k n) ∧ m.run k = none) := by
  have recurs {i j : ℕ} (hij : i < j) (hj : m.GoesOn k j)
      (same : (m.state.walk i).state.configuration = (m.state.walk j).state.configuration) :
      ∀ n, m.GoesOn k n := by
    intro n
    exact (goesOn_iff hk).2 (State.never_stops_of_recurs hij ((goesOn_iff hk).1 hj) same n)
  obtain ⟨i, j, hij, hj, same⟩ := m.state.exists_recurrence
  refine ⟨⟨?_, ?_⟩, Configuration.card_eq, ?_⟩
  · intro h
    refine ⟨i, j, hij, h i, h j, ?_⟩
    rw [configuration_steps hk (h i), configuration_steps hk (h j), same]
  · rintro ⟨i, j, hij, hi, hj, same⟩
    rw [configuration_steps hk hi, configuration_steps hk hj] at same
    exact recurs hij hj same
  · intro h
    have for_ever := recurs hij (h.mono hj) same
    exact ⟨for_ever, run_eq_none_of_goesOn hk for_ever⟩

/-- A machine that jumps from address 0 to address 0. -/
def spins : Machine := ⟨⟨false, false, false⟩, .start (Memory.zero.overlay [0x54, 0])⟩

/-- It is where it was after one step, so its run has no end. -/
theorem spins_for_ever :
    (∀ n, spins.GoesOn LineSink.unlimited n) ∧ spins.run LineSink.unlimited = none := by
  obtain ⟨recurs, -, endless⟩ :=
    goes_on_for_ever_iff_recurs (m := spins) (k := LineSink.unlimited) accepting_unlimited
  have going (n : ℕ) (hn : n ≤ 1) : spins.GoesOn LineSink.unlimited n := by
    refine .mono ⟨?_, ?_⟩ hn <;> decide +kernel
  have fetched : spins.state.fetch = .ok (.jump .always 0) := by decide +kernel
  have next : spins.state.next = .ok spins.state.tick := by
    rw [State.next_of_fetch_ok rfl fetched]
    rfl
  have back : (spins.steps LineSink.unlimited 1).machine = spins.withState spins.state.tick :=
    (step_of_silent rfl next (by decide +kernel) _).machine
  have for_ever := recurs.2 ⟨0, 1, by omega, going 0 (by omega), going 1 (by omega),
    by rw [back]; rfl⟩
  exact ⟨for_ever, (endless (for_ever _)).2⟩

end Machine

end ByteMachine
