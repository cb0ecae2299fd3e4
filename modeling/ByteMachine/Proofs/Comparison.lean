import ByteMachine.Proofs.Steps

/-!
# Where the flags come from

Only a comparison that succeeds touches the flags, and it replaces them as a whole. So the flags
tell how the values compared that the last comparison found in its registers, whatever has become
of these registers since, and they are clear as long as nothing was compared. A conditional jump
with a register that exists goes by the last comparison, however long ago it was made.
-/
namespace ByteMachine

namespace Machine

variable {σ : Type} [Sink σ] {m : Machine} {k : σ} {a b : UInt8} {i n : Nat}

/-- The step of the machine is a comparison that succeeds, of the values that its two registers
hold. -/
structure Compares (m : Machine) (k : σ) (a b : UInt8) : Prop where
  running : m.halted = false
  succeeds : (m.step k).result = .ok ()
  opcode : m.state.code 0 = Opcode.cmp.byte
  left : ∃ r : Register, r.val = (m.state.code 1).toNat ∧ m.state.registers.read r = a
  right : ∃ r : Register, r.val = (m.state.code 2).toNat ∧ m.state.registers.read r = b

/-- A comparison leaves the bit of its outcome in the flags and no other. -/
theorem flags_step_of_compares (h : m.Compares k a b) :
    (m.step k).machine.state.flags = .ofOrdering (compare a b) := by
  obtain ⟨p, hp, rfl⟩ := h.left
  obtain ⟨q, hq, rfl⟩ := h.right
  obtain ⟨r, t, hr, ht, -, equal, greater, less⟩ :=
    (moves_of_ok h.running h.succeeds).turns h.opcode.symm
  obtain rfl : p = r := Fin.ext (hp.trans hr.symm)
  obtain rfl : q = t := Fin.ext (hq.trans ht.symm)
  obtain ⟨equal', greater', less'⟩ :=
    Flags.bit_compare (m.state.registers.read p) (m.state.registers.read q)
  have bits : (m.step k).machine.state.flags.bits =
      Flags.bit (compare (m.state.registers.read p) (m.state.registers.read q)) := by
    rcases Nat.lt_trichotomy (m.state.registers.read p).toNat (m.state.registers.read q).toNat with
      lt | eq | gt
    · rw [less lt, less' lt]
    · rw [equal eq, equal' eq]
    · rw [greater gt, greater' gt]
  exact congrArg Flags.mk bits

/-- A step that does not compare leaves the flags alone, be it that it fails or that it does
something else. -/
theorem flags_step_of_not_compares (h : ∀ a b, ¬m.Compares k a b) :
    (m.step k).machine.state.flags = m.state.flags := by
  rcases m.moves_or_stays k with moves | stays
  · obtain ⟨op, hop, turns⟩ := (State.dispatched_of_next moves.running moves.next).effect
    by_cases hcmp : op = .cmp
    · subst hcmp
      obtain ⟨r, q, hr, hq, -⟩ := turns
      exact absurd ⟨moves.running, moves.succeeds, hop.symm, ⟨r, hr, rfl⟩, ⟨q, hq, rfl⟩⟩ (h _ _)
    · obtain ⟨f, confined, -, kept, -⟩ := Opcode.exists_scope_of_turns turns
      exact confined.flags (kept hcmp)
  · rw [stays]

/-! ## Runs of steps -/

/-- After `i` steps, the next one compares the values. -/
def ComparesAt (m : Machine) (k : σ) (i : Nat) (a b : UInt8) : Prop :=
  (m.steps k i).machine.Compares (m.steps k i).sink a b

/-- None of the first `n` steps compares. -/
def ComparesNever (m : Machine) (k : σ) (n : Nat) : Prop :=
  ∀ i < n, ∀ a b, ¬m.ComparesAt k i a b

/-- Of `n` steps, the one after the first `i` is the last that compares. -/
structure ComparesLast (m : Machine) (k : σ) (n i : Nat) (a b : UInt8) : Prop where
  within : i < n
  compares : m.ComparesAt k i a b
  last : ∀ j, i < j → j < n → ∀ c d, ¬m.ComparesAt k j c d

/-- Some step is the last that compares, unless none does. -/
theorem comparesNever_or_exists_last (m : Machine) (k : σ) (n : Nat) :
    m.ComparesNever k n ∨ ∃ i a b, m.ComparesLast k n i a b := by
  induction n with
  | zero => exact .inl (by simp [ComparesNever])
  | succ n ih =>
    by_cases here : ∃ a b, m.ComparesAt k n a b
    · obtain ⟨a, b, compares⟩ := here
      exact .inr ⟨n, a, b, by omega, compares, by omega⟩
    have others : ∀ a b, ¬m.ComparesAt k n a b := by simpa using here
    rcases ih with never | ⟨i, a, b, last⟩
    · refine .inl ?_
      intro i hi
      rcases Nat.lt_succ_iff_lt_or_eq.1 hi with hlt | rfl
      · exact never i hlt
      · exact others
    · refine .inr ⟨i, a, b, Nat.lt_succ_of_lt last.within, last.compares, ?_⟩
      intro j hij hj
      rcases Nat.lt_succ_iff_lt_or_eq.1 hj with hlt | rfl
      · exact last.last j hij hlt
      · exact others

theorem flags_steps_of_uncompared (hin : i ≤ n)
    (h : ∀ j, i ≤ j → j < n → ∀ a b, ¬m.ComparesAt k j a b) :
    (m.steps k n).machine.state.flags = (m.steps k i).machine.state.flags := by
  refine steps_keep State.flags hin ?_
  intro j hij hj
  exact flags_step_of_not_compares (h j hij hj)

theorem flags_steps_of_never (h : m.ComparesNever k n) :
    (m.steps k n).machine.state.flags = m.state.flags :=
  flags_steps_of_uncompared (Nat.zero_le n) fun j _ hj => h j hj

theorem flags_steps_of_last (h : m.ComparesLast k n i a b) :
    (m.steps k n).machine.state.flags = .ofOrdering (compare a b) := by
  rw [flags_steps_of_uncompared h.within h.last, steps_succ]
  exact flags_step_of_compares h.compares

omit [Sink σ] in
theorem flags_load (m : Machine) (image : List UInt8) (k : σ) :
    (m.load image k).machine.state.flags = .clear := by
  by_cases fits : image.length ≤ Memory.size
  · rw [load_of_le fits]
    rfl
  · rw [load_of_gt (Nat.not_le.1 fits)]
    rfl

/-- The flags say that values were equal exactly if the last comparison was of equal values. -/
theorem equal_steps_iff (start : m.state.flags = .clear) :
    (m.steps k n).machine.state.flags.equal = true ↔ ∃ i a, m.ComparesLast k n i a a := by
  constructor
  · intro equal
    rcases comparesNever_or_exists_last m k n with never | ⟨i, a, b, last⟩
    · rw [flags_steps_of_never never, start] at equal
      exact absurd equal (by decide)
    · rw [flags_steps_of_last last, Flags.equal, Flags.shows_ofOrdering, beq_iff_eq,
        Std.compare_eq_iff_eq] at equal
      exact ⟨i, a, equal ▸ last⟩
  · rintro ⟨i, a, last⟩
    rw [flags_steps_of_last last, Flags.equal, Flags.shows_ofOrdering, Std.ReflOrd.compare_self]
    rfl

/-- They say nothing of the kind if nothing was compared or the last comparison was of different
values. -/
theorem unequal_steps_iff (start : m.state.flags = .clear) :
    (m.steps k n).machine.state.flags.equal = false ↔
      m.ComparesNever k n ∨ ∃ i a b, m.ComparesLast k n i a b ∧ a ≠ b := by
  constructor
  · intro unequal
    rcases comparesNever_or_exists_last m k n with never | ⟨i, a, b, last⟩
    · exact .inl never
    · refine .inr ⟨i, a, b, last, ?_⟩
      rintro rfl
      exact absurd ((equal_steps_iff start).2 ⟨i, a, last⟩) (by simp [unequal])
  · rintro (never | ⟨i, a, b, last, different⟩)
    · rw [flags_steps_of_never never, start]
      rfl
    · rw [flags_steps_of_last last, Flags.equal, Flags.shows_ofOrdering, beq_eq_false_iff_ne, ne_eq,
        Std.compare_eq_iff_eq]
      exact different

/-- No more than one bit of the flags is set. -/
theorem bits_steps_mem (start : m.state.flags = .clear) :
    (m.steps k n).machine.state.flags.bits ∈ [0, 0b001, 0b010, 0b100] := by
  rcases comparesNever_or_exists_last m k n with never | ⟨i, a, b, last⟩
  · rw [flags_steps_of_never never, start]
    decide
  · rw [flags_steps_of_last last]
    cases compare a b <;> decide

/-! ## Conditional jumps -/

/-- The step succeeds and goes on at the address. -/
structure GoesTo (m : Machine) (k : σ) (a : UInt8) : Prop where
  succeeds : (m.step k).result = .ok ()
  pc : (m.step k).machine.state.pc = a

/-- The step jumps to the address in the register if the condition holds, and passes on to the next
instruction if it does not. -/
structure Branches (m : Machine) (k : σ) (r : Register) (condition : Prop) : Prop where
  taken : condition → m.GoesTo k (m.state.registers.read r)
  passed : ¬condition → m.GoesTo k (m.state.pc + 2)

theorem fetch_of_condition {c : Condition} (hc : m.state.code 0 = c.opcode.byte) :
    m.state.fetch = .ok (.jump c (m.state.code 1)) := by
  have hb : c.opcode.byte = m.state.memory.read m.state.pc := by simpa [State.code] using hc.symm
  exact Instruction.decode_eq_ok_iff.2 ⟨c.opcode, hb, Instruction.ofOpcode_condition c _ _⟩

theorem silent_of_condition {c : Condition} (hc : m.state.code 0 = c.opcode.byte) :
    m.state.printed? = none := by
  by_cases halted : m.state.halted = true
  · exact State.printed?_of_halted halted
  · simp [State.printed?, halted, fetch_of_condition hc, Instruction.printed?]

theorem goesTo_of_holds (running : m.halted = false) {c : Condition}
    (hc : m.state.code 0 = c.opcode.byte) (holds : c.holds m.state.flags = true) {r : Register}
    (hr : r.val = (m.state.code 1).toNat) : m.GoesTo k (m.state.registers.read r) := by
  have next := State.next_of_fetch_ok running (fetch_of_condition hc)
  rw [(Instruction.effect_jump_eq_ok_iff holds).2 ⟨r, hr, rfl⟩] at next
  have ends := step_of_silent running next (silent_of_condition hc) k
  exact ⟨ends.result, by rw [ends.machine]; rfl⟩

/-- A jump that is not taken passes on, also if its register does not exist. -/
theorem goesTo_of_not_holds (running : m.halted = false) {c : Condition}
    (hc : m.state.code 0 = c.opcode.byte) (fails : c.holds m.state.flags = false) :
    m.GoesTo k (m.state.pc + 2) := by
  have next := State.next_of_fetch_ok running (fetch_of_condition hc)
  rw [Instruction.effect_jump_of_not_holds fails] at next
  have ends := step_of_silent running next (silent_of_condition hc) k
  exact ⟨ends.result, by rw [ends.machine]; rfl⟩

theorem branches_of_jump (running : m.halted = false) {c : Condition}
    (hc : m.state.code 0 = c.opcode.byte) {r : Register} (hr : r.val = (m.state.code 1).toNat) :
    m.Branches k r (c.holds m.state.flags = true) where
  taken holds := goesTo_of_holds running hc holds hr
  passed fails := goesTo_of_not_holds running hc (by simpa using fails)

/-- The flags are the last comparison. After an image has been loaded, accepted or not, and a number
of steps made, whether or not they have failed or found the machine halted, no flag is set if
nothing was compared, and otherwise the one that tells how the values compared that the last
comparison has found in its registers. A step that does not compare does not change them, so there
is never more than one. A jump on equality with a register that exists is taken exactly if something
was compared and the last comparison was of equal values, and a jump on inequality exactly if
nothing was compared or the last comparison was of different values. -/
theorem flags_are_last_comparison (image : List UInt8) (m₀ : Machine) (k : σ) (n : Nat) :
    let m := (m₀.load image k).machine
    let o := m.steps k n
    let s := o.machine.state
    (m.ComparesNever k n → s.flags.bits = 0) ∧
    (∀ i a b, m.ComparesLast k n i a b →
      (a.toNat = b.toNat → s.flags.bits = 0b001) ∧ (a.toNat > b.toNat → s.flags.bits = 0b010) ∧
        (a.toNat < b.toNat → s.flags.bits = 0b100)) ∧
    ((∀ a b, ¬m.ComparesAt k n a b) → (m.steps k (n + 1)).machine.state.flags = s.flags) ∧
    s.flags.bits ∈ [0, 0b001, 0b010, 0b100] ∧
    (s.halted = false → ∀ r : Register, r.val = (s.code 1).toNat →
      (s.code 0 = Opcode.jeq.byte →
        o.machine.Branches o.sink r (∃ i a, m.ComparesLast k n i a a)) ∧
      (s.code 0 = Opcode.jne.byte →
        o.machine.Branches o.sink r
          (m.ComparesNever k n ∨ ∃ i a b, m.ComparesLast k n i a b ∧ a ≠ b))) := by
  intro m o s
  have start : m.state.flags = .clear := flags_load m₀ image k
  refine ⟨?_, ?_, ?_, bits_steps_mem start, ?_⟩
  · intro never
    rw [flags_steps_of_never never, start]
    rfl
  · intro i a b last
    rw [flags_steps_of_last last]
    exact Flags.bit_compare a b
  · intro others
    exact flags_step_of_not_compares others
  · intro running r hr
    refine ⟨?_, ?_⟩
    · intro hb
      have branches := branches_of_jump (k := o.sink) (c := .ifEqual) running hb hr
      rwa [Condition.holds, equal_steps_iff start] at branches
    · intro hb
      have branches := branches_of_jump (k := o.sink) (c := .ifUnequal) running hb hr
      rwa [Condition.holds, Bool.not_eq_true', unequal_steps_iff start] at branches

/-- The flags stay as they are when a compared register is overwritten. -/
example :
    let image : List UInt8 := [0x82, 0, 5, 0xA7, 0, 1, 0x82, 0, 0, 0xA7, 0, 9]
    let m := ((Machine.new ⟨false, false, false⟩).load image LineSink.unlimited).machine
    (m.steps LineSink.unlimited 4).machine.state.flags = .ofOrdering .gt := by
  decide +kernel

end Machine

end ByteMachine
