import Mathlib.Logic.Function.Basic
import ByteMachine.Proofs.Faults

/-!
# Registers and numbers of any size

The arithmetic unit reduces every sum and every product modulo 256. It would make no difference to
compute with numbers of any size and to reduce once at the end: reduction is compatible with sums
and products, whichever registers they are taken from and put into. Comparisons, and operations on
operands that name no register, have no part in this, since they leave all registers alone.
-/
namespace ByteMachine

open ByteMachine.Action

variable {σ : Type} {s : State} {rs : Registers} {fl : Flags} {r q p : Register}

/-! ## Operations -/

/-- The effect of the operation on registers that have room for any number. -/
def AluOp.applyUnbounded (op : AluOp) (r q : Register) (ns : Register → Nat) : Register → Nat :=
  match op with
  | add => Function.update ns r (ns r + ns q)
  | mul => Function.update ns r (ns r * ns q)
  | cmp => ns

/-- Registers that hold the residues of some numbers still do when a residue is put into one. -/
theorem Registers.toNat_read_write {ns : Register → Nat}
    (residues : ∀ p, (rs.read p).toNat = ns p % 256) {v : UInt8} {n : Nat} (hv : v.toNat = n % 256)
    (r p : Register) : ((rs.write r v).read p).toNat = Function.update ns r n p % 256 := by
  rw [read_write]
  by_cases h : r = p
  · subst h
    rw [if_pos rfl, Function.update_self, hv]
  · rw [if_neg h, Function.update_of_ne (Ne.symm h), residues]

/-- Registers that hold the residues of some numbers hold those of the results, too. -/
theorem AluOp.toNat_read_applyTo {ns : Register → Nat}
    (residues : ∀ p, (rs.read p).toNat = ns p % 256) (op : AluOp) (r q p : Register) :
    ((op.applyTo r q rs fl).1.read p).toNat = op.applyUnbounded r q ns p % 256 := by
  cases op with
  | add =>
    have sum : (rs.read r + rs.read q).toNat = (ns r + ns q) % 256 := by
      rw [UInt8.toNat_add, residues, residues, ← Nat.add_mod]
    exact Registers.toNat_read_write residues sum r p
  | mul =>
    have product : (rs.read r * rs.read q).toNat = ns r * ns q % 256 := by
      rw [UInt8.toNat_mul, residues, residues, ← Nat.mul_mod]
    exact Registers.toNat_read_write residues product r p
  | cmp => exact residues p

/-- Only a comparison touches the flags. -/
theorem AluOp.flags_applyTo {op : AluOp} (h : op ≠ cmp) : (op.applyTo r q rs fl).2 = fl := by
  cases op with
  | add => rfl
  | mul => rfl
  | cmp => exact absurd rfl h

/-- The accesses to two operands come to what the operation does to registers and flags. -/
theorem AluOp.execute_eq (op : AluOp) (a b : UInt8) (s : State) (k : σ) :
    op.execute a b (s, k) =
      match op.apply a b s.registers s.flags with
      | .ok (registers, flags) => .ok () ({ s with registers, flags }, k)
      | .error fault => .error fault (s, k) := by
  rcases ha : Register.ofByte a with fault | r
  · simp [execute, apply, ha, readRegister_of_error ha]
  · rcases hb : Register.ofByte b with fault | q
    · simp [execute, apply, ha, hb, readRegister_of_ok ha, readRegister_of_error hb]
    · cases op <;>
        simp [execute, apply, ha, hb, readRegister_of_ok ha, readRegister_of_ok hb,
          writeRegister_of_ok ha]

/-! ## Calls -/

/-- A call of the arithmetic unit. -/
structure AluCall where
  op : AluOp
  left : UInt8
  right : UInt8
  deriving DecidableEq, Repr

namespace AluCall

/-- The call on a state: how it ends and what it leaves behind. -/
def perform (c : AluCall) (s : State) : Except Fault Unit × State :=
  match c.op.execute c.left c.right (s, ()) with
  | .ok _ w => (.ok (), w.1)
  | .error fault w => (.error fault, w.1)

/-- A sum or a product of two registers that exist. -/
def Computes (c : AluCall) : Prop :=
  c.op ≠ .cmp ∧ c.left.toNat < Register.count ∧ c.right.toNat < Register.count

instance : DecidablePred Computes :=
  fun c => inferInstanceAs
    (Decidable (c.op ≠ .cmp ∧ c.left.toNat < Register.count ∧ c.right.toNat < Register.count))

/-- The call on registers that have room for any number. -/
def unbounded (c : AluCall) (ns : Register → Nat) : Register → Nat :=
  match Register.ofByte c.left, Register.ofByte c.right with
  | .ok r, .ok q => c.op.applyUnbounded r q ns
  | _, _ => ns

/-- The state after calls that are made one after the other, whether or not they succeed. -/
def after (calls : List AluCall) (s : State) : State :=
  calls.foldl (fun s c => (c.perform s).2) s

/-- Registers that have room for any number after the same calls. -/
def unboundedAfter (calls : List AluCall) (ns : Register → Nat) : Register → Nat :=
  calls.foldl (fun ns c => c.unbounded ns) ns

variable {c : AluCall} {calls before rest : List AluCall} {b : UInt8}

theorem perform_eq (c : AluCall) (s : State) :
    c.perform s =
      match c.op.apply c.left c.right s.registers s.flags with
      | .ok (registers, flags) => (.ok (), { s with registers, flags })
      | .error fault => (.error fault, s) := by
  rw [perform, AluOp.execute_eq]
  rcases c.op.apply c.left c.right s.registers s.flags with fault | t <;> rfl

/-- A call goes by its two operands, the left one first, and a call that fails changes nothing. -/
theorem perform_of_firstInvalid (h : firstInvalid? [c.left, c.right] = some b) (s : State) :
    c.perform s = (.error (.invalidRegister b), s) := by
  have goes := c.op.apply_goesBy c.left c.right s.registers s.flags
  rw [perform_eq, goes.eq_error_iff.2 ⟨b, h, rfl⟩]

theorem perform_of_computes (h : c.Computes) (s : State) :
    (c.perform s).1 = .ok () ∧ (c.perform s).2.flags = s.flags := by
  obtain ⟨computes, hl, hr⟩ := h
  rw [perform_eq, AluOp.apply, Register.ofByte_of_lt hl, Register.ofByte_of_lt hr]
  exact ⟨rfl, AluOp.flags_applyTo computes⟩

/-- Other calls have no effect on numbers. -/
theorem unbounded_of_not_computes (h : ¬c.Computes) (ns : Register → Nat) :
    c.unbounded ns = ns := by
  rcases hl : Register.ofByte c.left with fault | r
  · simp [unbounded, hl]
  rcases hr : Register.ofByte c.right with fault | q
  · simp [unbounded, hl, hr]
  have left : c.left.toNat < Register.count := Register.ofByte_eq_ok_iff.1 hl ▸ r.isLt
  have right : c.right.toNat < Register.count := Register.ofByte_eq_ok_iff.1 hr ▸ q.isLt
  have compares : c.op = .cmp := by
    by_contra computes
    exact h ⟨computes, left, right⟩
  simp [unbounded, hl, hr, compares, AluOp.applyUnbounded]

/-- One call takes residues to residues. -/
theorem toNat_read_perform {ns : Register → Nat}
    (residues : ∀ p, (s.registers.read p).toNat = ns p % 256) (c : AluCall) (p : Register) :
    ((c.perform s).2.registers.read p).toNat = c.unbounded ns p % 256 := by
  rw [perform_eq, AluOp.apply, unbounded]
  rcases Register.ofByte c.left with fault | r
  · exact residues p
  rcases Register.ofByte c.right with fault | q
  · exact residues p
  · exact AluOp.toNat_read_applyTo residues c.op r q p

/-! ## Sequences of calls -/

/-- A sequence of calls takes residues to residues. -/
theorem toNat_read_after {ns : Register → Nat}
    (residues : ∀ p, (s.registers.read p).toNat = ns p % 256) (calls : List AluCall)
    (p : Register) :
    ((after calls s).registers.read p).toNat = unboundedAfter calls ns p % 256 := by
  induction calls generalizing s ns with
  | nil => exact residues p
  | cons c calls ih => exact ih (toNat_read_perform residues c)

theorem unboundedAfter_filter (calls : List AluCall) (ns : Register → Nat) :
    unboundedAfter (calls.filter Computes) ns = unboundedAfter calls ns := by
  induction calls generalizing ns with
  | nil => rfl
  | cons c calls ih =>
    by_cases h : c.Computes
    · rw [List.filter_cons_of_pos (by simpa using h)]
      exact ih (c.unbounded ns)
    · rw [List.filter_cons_of_neg (by simpa using h), ih ns]
      exact congrArg (unboundedAfter calls) (unbounded_of_not_computes h ns).symm

theorem flags_after (computes : ∀ c ∈ calls, c.Computes) (s : State) :
    (after calls s).flags = s.flags := by
  induction calls generalizing s with
  | nil => rfl
  | cons c calls ih =>
    rw [List.forall_mem_cons] at computes
    exact (ih computes.2 _).trans (perform_of_computes computes.1 s).2

/-- Sums and products of registers come to what they would be on numbers of any size, reduced modulo
256 once, in all registers and from any state. All of them succeed, and the flags stay as they are.
Any comparisons and any calls on operands that name no register can be put in between; the latter
fail, with the first such operand, and no register will have another content. -/
theorem residues_of_unbounded (s : State) (computes : ∀ c ∈ calls, c.Computes) :
    (∀ before c rest, calls = before ++ c :: rest → (c.perform (after before s)).1 = .ok ()) ∧
    (∀ before, before <+: calls → (after before s).flags = s.flags) ∧
    (∀ r, ((after calls s).registers.read r).toNat =
      unboundedAfter calls (fun r => (s.registers.read r).toNat) r % 256) ∧
    ∀ mixed : List AluCall, mixed.filter Computes = calls →
      (after mixed s).registers = (after calls s).registers ∧
      ∀ before c rest b, mixed = before ++ c :: rest →
        firstInvalid? [c.left, c.right] = some b →
          c.perform (after before s) = (.error (.invalidRegister b), after before s) := by
  have start : ∀ r, (s.registers.read r).toNat = (s.registers.read r).toNat % 256 := by
    intro r
    exact (Nat.mod_eq_of_lt (UInt8.toNat_lt _)).symm
  refine ⟨?_, ?_, toNat_read_after start calls, ?_⟩
  · rintro before c rest rfl
    exact (perform_of_computes (computes c (by simp)) _).1
  · intro before shorter
    exact flags_after (fun c hc => computes c (shorter.subset hc)) s
  · intro mixed filtered
    refine ⟨?_, fun before c rest b _ invalid => perform_of_firstInvalid invalid _⟩
    refine Registers.ext_read fun r => UInt8.toNat_inj.1 ?_
    rw [toNat_read_after start, toNat_read_after start, ← filtered, unboundedAfter_filter]

/-- A square that is squared again and added to a register. -/
theorem residues_of_squares :
    let s := { State.start .zero with registers := Registers.start.setSp 251 }
    let calls : List AluCall := [⟨.mul, 7, 7⟩, ⟨.mul, 7, 7⟩, ⟨.add, 0, 7⟩]
    let before : List AluCall := [⟨.mul, 7, 7⟩, ⟨.cmp, 7, 0⟩, ⟨.mul, 7, 7⟩]
    let mixed : List AluCall := before ++ [⟨.mul, 9, 8⟩, ⟨.add, 0, 7⟩]
    (∀ c ∈ calls, c.Computes) ∧ (after calls s).flags = s.flags ∧
    ((after calls s).registers.read 0).toNat = 251 * 251 * (251 * 251) % 256 ∧
    (after mixed s).registers = (after calls s).registers ∧
    perform ⟨.mul, 9, 8⟩ (after before s) = (.error (.invalidRegister 9), after before s) := by
  intro s calls before mixed
  have computes : ∀ c ∈ calls, c.Computes := by decide
  obtain ⟨-, flags, residues, inserted⟩ := residues_of_unbounded s computes
  obtain ⟨same, fails⟩ := inserted mixed (by decide)
  refine ⟨computes, flags calls (List.prefix_refl _), ?_, same, ?_⟩
  · rw [residues]
    decide
  · exact fails before ⟨.mul, 9, 8⟩ [⟨.add, 0, 7⟩] 9 rfl (by decide)

end AluCall

end ByteMachine
