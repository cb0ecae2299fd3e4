import ByteMachine.Proofs.Comparison
import ByteMachine.Proofs.Halting
import ByteMachine.Proofs.Provenance

/-!
# Programs that do not push

Only a push writes to memory. If the byte of a push is nowhere in an image, be it as an opcode, as
an operand or as a mere value, then it is at no address that the program counter can come to,
however jumps are computed and wherever the program counter goes round. So nothing is ever pushed,
memory stays as it was loaded, and every opcode that is executed is a byte of the image. An opcode
whose byte is not in the image has no effect on any run: a machine halts, prints or compares only if
the image has a byte for it.
-/
namespace ByteMachine.Machine

variable {σ : Type} [Sink σ] {m : Machine} {k : σ} {image : List UInt8} {e : Executed}

/-- The machine is as an image without a push leaves it: memory is the image with zeros behind it,
and what the image has no byte for has not been done. -/
structure ConfinedTo (image : List UInt8) (m : Machine) : Prop where
  memory : ∀ a, m.state.memory.read a = image[a.toNat]?.getD 0
  running : Opcode.hlt.byte ∉ image → m.halted = false
  flags : Opcode.cmp.byte ∉ image → m.state.flags = .clear

omit [Sink σ] in
theorem confinedTo_load (fits : image.length ≤ Memory.size) (m : Machine) (k : σ) :
    (m.load image k).machine.ConfinedTo image where
  memory := read_load fits m k
  running _ := by
    rw [load_of_le fits]
    rfl
  flags _ := flags_load m image k

theorem Executes.opcode_eq (h : m.Executes k e) :
    e.instruction.opcode.byte = m.state.code 0 := by
  obtain ⟨op, hop, hi⟩ := Instruction.decode_eq_ok_iff.1 h.fetched
  rw [← hi, Instruction.opcode_ofOpcode, hop]
  simp [State.code]

namespace ConfinedTo

/-- The zeros behind the image stand for no opcode. -/
theorem opcode_mem (h : m.ConfinedTo image) {op : Opcode} (hop : op.byte = m.state.code 0) :
    op.byte ∈ image := by
  have read : op.byte = image[(m.state.pc + UInt8.ofNat 0).toNat]?.getD 0 := by
    rw [hop, State.code, h.memory]
  rcases hi : image[(m.state.pc + UInt8.ofNat 0).toNat]? with _ | b
  · rw [hi, Option.getD_none] at read
    cases op <;> exact absurd read (by decide)
  · rw [hi, Option.getD_some] at read
    rw [read]
    exact List.mem_of_getElem? hi

/-- What is executed is an opcode of the image, so it pushes nothing, and it does not halt or
compare unless the image has a byte for that. -/
theorem executes (h : m.ConfinedTo image) (noPush : Opcode.push.byte ∉ image)
    (made : m.Executes k e) : (m.step k).machine.ConfinedTo image := by
  obtain ⟨op, hop, turns⟩ := (State.dispatched_of_next made.running made.next).effect
  have mem : op.byte ∈ image := h.opcode_mem hop
  have others {op' : Opcode} (absent : op'.byte ∉ image) : op ≠ op' := by
    rintro rfl
    exact absent mem
  obtain ⟨f, confined, halts, compares, pushes⟩ := Opcode.exists_scope_of_turns turns
  refine ⟨?_, ?_, ?_⟩
  · intro a
    rw [confined.cells a (by simp [pushes (others noPush)])]
    exact h.memory a
  · intro noHalt
    rw [halted, confined.halted (halts (others noHalt))]
    exact h.running noHalt
  · intro noCompare
    rw [confined.flags (compares (others noCompare))]
    exact h.flags noCompare

theorem step (h : m.ConfinedTo image) (noPush : Opcode.push.byte ∉ image) (k : σ) :
    (m.step k).machine.ConfinedTo image :=
  @History.keeps_step _ _ (fun h => h.machine.ConfinedTo image)
    (fun _ _ _ _ h made => h.executes noPush made) m [] h k

theorem steps (h : m.ConfinedTo image) (noPush : Opcode.push.byte ∉ image) (k : σ) (n : Nat) :
    (m.steps k n).machine.ConfinedTo image := by
  induction n with
  | zero => exact h
  | succ n ih => exact ih.step noPush _

theorem stepUpTo (h : m.ConfinedTo image) (noPush : Opcode.push.byte ∉ image) (k : σ) (n : Nat) :
    (m.stepUpTo n k).machine.ConfinedTo image :=
  @History.keeps_stepUpTo _ _ (fun h => h.machine.ConfinedTo image)
    (fun _ _ _ _ h made => h.executes noPush made) n m [] h k

/-! ## What does not happen -/

/-- A run succeeds only if the machine has halted. -/
theorem run_ne_ok (h : m.ConfinedTo image) (noPush : Opcode.push.byte ∉ image)
    (noHalt : Opcode.hlt.byte ∉ image) {o : Outcome σ} (ran : m.run k = some o) :
    o.result ≠ .ok () := by
  obtain ⟨n, stopped, -, ⟨fault, -, failed, -⟩ | ⟨ok, -⟩⟩ := exists_stepUpTo_of_run ran
  · simp [failed]
  · have running := (h.stepUpTo noPush k n).running noHalt
    have halted : (m.stepUpTo n k).machine.halted = true := stopped.resolve_right (by simp [ok])
    exact absurd halted (by simp [running])

theorem silent (h : m.ConfinedTo image) (noPrint : Opcode.prn.byte ∉ image) :
    m.state.printed? = none := by
  rcases hp : m.state.printed? with _ | v
  · rfl
  · obtain ⟨-, source, -, hf, -⟩ := State.printed?_eq_some_iff.1 hp
    exact absurd (h.opcode_mem (State.fetch_eq_print_iff.1 hf).1.symm) noPrint

theorem sink_step (h : m.ConfinedTo image) (noPrint : Opcode.prn.byte ∉ image) (k : σ) :
    (m.step k).sink = k :=
  sink_step_of_silent (h.silent noPrint) k

theorem sink_steps (h : m.ConfinedTo image) (noPush : Opcode.push.byte ∉ image)
    (noPrint : Opcode.prn.byte ∉ image) (k : σ) (n : Nat) : (m.steps k n).sink = k := by
  induction n with
  | zero => rfl
  | succ n ih => rw [steps_succ, (h.steps noPush k n).sink_step noPrint, ih]

theorem sink_stepUpTo (h : m.ConfinedTo image) (noPush : Opcode.push.byte ∉ image)
    (noPrint : Opcode.prn.byte ∉ image) (k : σ) (n : Nat) : (m.stepUpTo n k).sink = k := by
  induction n generalizing m k with
  | zero => rfl
  | succ n ih =>
    rw [stepUpTo_succ]
    split
    · rfl
    rcases hr : (m.step k).result with fault | ⟨⟩
    · rw [Outcome.andThen_of_error hr, h.sink_step noPrint]
    · rw [Outcome.andThen_of_ok hr, Outcome.sink_logAfter, ih (h.step noPush k),
        h.sink_step noPrint]

/-- All that a run may do to its sink is to flush it. -/
theorem sink_run (h : m.ConfinedTo image) (noPush : Opcode.push.byte ∉ image)
    (noPrint : Opcode.prn.byte ∉ image) {o : Outcome σ} (ran : m.run k = some o) :
    o.sink = k ∨ o.sink = (Sink.flush k).2 := by
  obtain ⟨n, -, -, ⟨-, -, -, unflushed⟩ | ⟨-, flushed⟩⟩ := exists_stepUpTo_of_run ran
  · exact .inl (unflushed.trans (h.sink_stepUpTo noPush noPrint k n))
  · rw [h.sink_stepUpTo noPush noPrint] at flushed
    exact .inr flushed

/-- A jump on equality passes on, because nothing was found equal. -/
theorem passes_jeq (h : m.ConfinedTo image) (noCompare : Opcode.cmp.byte ∉ image)
    (running : m.halted = false) (hb : m.state.code 0 = Opcode.jeq.byte) (k : σ) :
    m.GoesTo k (m.state.pc + 2) := by
  have fails : Condition.holds .ifEqual m.state.flags = false := by
    rw [h.flags noCompare]
    rfl
  exact goesTo_of_not_holds (c := .ifEqual) running hb fails

/-- A jump on inequality that succeeds is taken. -/
theorem takes_jne (h : m.ConfinedTo image) (noCompare : Opcode.cmp.byte ∉ image)
    (running : m.halted = false) (hb : m.state.code 0 = Opcode.jne.byte)
    (ok : (m.step k).result = .ok ()) :
    ∃ r : Register, r.val = (m.state.code 1).toNat ∧ m.GoesTo k (m.state.registers.read r) := by
  have dispatched := State.dispatched_of_next running (moves_of_ok running ok).next
  have jumps : m.state.Jumps := by
    refine .inr (.inr ⟨hb, ?_⟩)
    rw [h.flags noCompare]
    rfl
  obtain ⟨r, hr, hpc⟩ := dispatched.taken (by rw [hb]; decide) jumps
  exact ⟨r, hr, ok, hpc⟩

end ConfinedTo

/-- A program that does not push runs on fixed code. Let the byte of a push be nowhere in an image.
After it has been loaded and a number of steps made, whether or not they have failed or found the
machine halted, memory is still the image with zeros behind it, and the next step, with whatever
sink, executes nothing but an opcode from the image. Without the byte of a halt the machine has not
halted and no run succeeds; without that of a print instruction nothing has been written, and runs
write nothing, also if they never end; without that of a comparison no flag is set, so that jumps on
equality pass on and jumps on inequality are taken whenever they succeed. -/
theorem program_without_push_is_fixed {image : List UInt8} (fits : image.length ≤ 256)
    (noPush : 0x45 ∉ image) (m₀ : Machine) (k : σ) (n : Nat) :
    let m := (m₀.load image k).machine
    let q := (m.steps k n).machine
    (∀ a, q.state.memory.read a = image[a.toNat]?.getD 0) ∧
    (∀ (τ : Type) [Sink τ] (k' : τ) e, q.Executes k' e → e.instruction.opcode.byte ∈ image) ∧
    (0x01 ∉ image → q.halted = false ∧
      ∀ (τ : Type) [Sink τ] (k' : τ) o, q.run k' = some o → o.result ≠ .ok ()) ∧
    (0x47 ∉ image → (m.steps k n).sink = k ∧
      ∀ (τ : Type) [Sink τ] (k' : τ), (∀ j, (q.stepUpTo j k').sink = k') ∧
        ∀ o, q.run k' = some o → o.sink = k' ∨ o.sink = (Sink.flush k').2) ∧
    (0xA7 ∉ image → q.state.flags.bits = 0 ∧
      (q.halted = false → ∀ (τ : Type) [Sink τ] (k' : τ),
        (q.state.code 0 = 0x55 → q.GoesTo k' (q.state.pc + 2)) ∧
        (q.state.code 0 = 0x56 → (q.step k').result = .ok () →
          ∃ r : Register, r.val = (q.state.code 1).toNat ∧
            q.GoesTo k' (q.state.registers.read r)))) := by
  intro m q
  have start : m.ConfinedTo image := confinedTo_load fits m₀ k
  have here : q.ConfinedTo image := start.steps noPush k n
  refine ⟨here.memory, ?_, ?_, ?_, ?_⟩
  · intro τ _ k' e made
    exact here.opcode_mem made.opcode_eq
  · intro noHalt
    refine ⟨here.running noHalt, ?_⟩
    intro τ _ k' o ran
    exact here.run_ne_ok noPush noHalt ran
  · intro noPrint
    refine ⟨start.sink_steps noPush noPrint k n, ?_⟩
    intro τ _ k'
    refine ⟨here.sink_stepUpTo noPush noPrint k', ?_⟩
    intro o ran
    exact here.sink_run noPush noPrint ran
  · intro noCompare
    refine ⟨?_, ?_⟩
    · rw [here.flags noCompare]
      rfl
    · intro running τ _ k'
      refine ⟨?_, ?_⟩
      · intro hb
        exact here.passes_jeq noCompare running hb k'
      · intro hb ok
        exact here.takes_jne noCompare running hb ok

/-- A load and a jump on inequality back to it, which push, halt, print and compare nowhere. -/
def jumpsBack : List UInt8 := [0x82, 0, 0, 0x56, 0]

/-- The loop is not left in a thousand steps, and when the jump has been come to, it is taken. -/
theorem jumpsBack_is_fixed :
    let m := ((Machine.new ⟨true, false, false⟩).load jumpsBack LineSink.unlimited).machine
    (m.steps LineSink.unlimited 1000).machine.halted = false ∧
      (m.steps LineSink.unlimited 1000).machine.state.memory.read 255 = 0 ∧
      (m.steps LineSink.unlimited 1).machine.GoesTo LineSink.unlimited 0 := by
  have fits : jumpsBack.length ≤ 256 := by decide
  have fixed := program_without_push_is_fixed fits (by decide) (Machine.new ⟨true, false, false⟩)
    LineSink.unlimited
  obtain ⟨memory, -, halts, -⟩ := fixed 1000
  obtain ⟨-, -, -, -, compares⟩ := fixed 1
  have atJump := (compares (by decide)).2 (by decide +kernel) LineSink LineSink.unlimited
  obtain ⟨r, hr, goes⟩ := atJump.2 (by decide +kernel) (by decide +kernel)
  obtain rfl : r = 0 := Fin.ext (hr.trans (by decide +kernel))
  exact ⟨(halts (by decide)).1, memory 255, goes.succeeds, goes.pc.trans (by decide +kernel)⟩

end ByteMachine.Machine
