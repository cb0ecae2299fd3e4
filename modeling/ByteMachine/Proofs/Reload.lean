import ByteMachine.Proofs.Observation

/-!
# Loading anew

To load is to forget. What was done with a machine before, be it that it has halted, has failed in
the middle of a program or has overwritten its memory, leaves no trace in what the machine does
after a load: it answers as a new machine with the same options does. The image need not even be
accepted, because memory and the registers are cleared before its size is looked at.
-/
namespace ByteMachine

/-- A text that shows the state of a machine. -/
inductive Display where
  /-- The crash report. -/
  | report
  /-- The snapshot at the program counter. -/
  | snapshot
  /-- What comes next. -/
  | next
  /-- Memory in rows. -/
  | memory (start : UInt8) (length : Nat)
  deriving DecidableEq, Repr

/-- The text for a state. -/
def Display.text : Display → State → String
  | report, s => s.report
  | snapshot, s => s.snapshot.text
  | next, s => Debugger.nextText s
  | memory start length, s =>
    String.join ((Debugger.dumpRows start.toNat (s.memory.slice start length)).map Debugger.rowLine)

/-- Something that is asked of a machine: to be used with a sink, or to be shown. -/
inductive Inquiry (σ : Type) where
  | use (u : Use) (k : σ)
  | display (d : Display)

namespace Inquiry

/-- To load an image. -/
abbrev load {σ : Type} (image : List UInt8) (k : σ) : Inquiry σ := .use (.call (.load image)) k

end Inquiry

/-- What comes back: what a use comes to, or a text. -/
inductive Answer (σ : Type) where
  | outcome (o : Outcome σ)
  | text (t : String)

namespace Machine

variable {σ : Type} [Sink σ]

/-- The answers to inquiries that are made one after the other, and the machine after them. There
are none if one of the inquiries never ends. -/
def inquire : List (Inquiry σ) → Machine → Option (List (Answer σ) × Machine)
  | [], m => some ([], m)
  | .use u k :: rest, m =>
    (u.perform m k).bind fun o => (inquire rest o.machine).map (Prod.map (.outcome o :: ·) id)
  | .display d :: rest, m => (inquire rest m).map (Prod.map (.text (d.text m.state) :: ·) id)

variable {p : Options} {m m' : Machine} {answers : List (Answer σ)} {image : List UInt8}

theorem inquire_load (image : List UInt8) (k : σ) (rest : List (Inquiry σ)) (m : Machine) :
    m.inquire (.load image k :: rest) =
      ((m.load image k).machine.inquire rest).map (Prod.map (.outcome (m.load image k) :: ·) id) :=
  rfl

/-- Later inquiries are made of the machine that earlier ones have left. -/
theorem inquire_append {earlier : List (Inquiry σ)} (h : m.inquire earlier = some (answers, m'))
    (later : List (Inquiry σ)) :
    m.inquire (earlier ++ later) = (m'.inquire later).map (Prod.map (answers ++ ·) id) := by
  induction earlier generalizing m answers with
  | nil =>
    obtain ⟨rfl, rfl⟩ := Prod.mk.inj (Option.some.inj h)
    exact (congrFun Option.map_id _).symm
  | cons inquiry earlier ih =>
    cases inquiry with
    | use u k =>
      obtain ⟨o, ho, hrest⟩ := Option.bind_eq_some_iff.1 h
      obtain ⟨⟨answers', m''⟩, first, same⟩ := Option.map_eq_some_iff.1 hrest
      obtain ⟨rfl, rfl⟩ := Prod.mk.inj same
      rw [List.cons_append, inquire, ho, Option.bind_some, ih first, Option.map_map]
      rfl
    | display d =>
      obtain ⟨⟨answers', m''⟩, first, same⟩ := Option.map_eq_some_iff.1 h
      obtain ⟨rfl, rfl⟩ := Prod.mk.inj same
      rw [List.cons_append, inquire, ih first, Option.map_map]
      rfl

/-- No inquiry changes the options. -/
theorem options_inquire {inquiries : List (Inquiry σ)}
    (h : m.inquire inquiries = some (answers, m')) : m'.options = m.options := by
  induction inquiries generalizing m answers with
  | nil => rw [(Prod.mk.inj (Option.some.inj h)).2]
  | cons inquiry inquiries ih =>
    cases inquiry with
    | use u k =>
      obtain ⟨o, ho, hrest⟩ := Option.bind_eq_some_iff.1 h
      obtain ⟨⟨answers', m''⟩, rest, same⟩ := Option.map_eq_some_iff.1 hrest
      obtain ⟨-, rfl⟩ := Prod.mk.inj same
      exact (ih rest).trans (u.observed_perform.options_eq ho)
    | display d =>
      obtain ⟨⟨answers', m''⟩, rest, same⟩ := Option.map_eq_some_iff.1 h
      obtain ⟨-, rfl⟩ := Prod.mk.inj same
      exact ih rest

omit [Sink σ] in
/-- Of all that a machine holds, a load looks at the options alone. -/
theorem load_eq_of_options_eq (h : m.options = p) (image : List UInt8) (k : σ) :
    m.load image k = (new p).load image k := by
  subst h
  by_cases fits : image.length ≤ Memory.size
  · rw [load_of_le fits, load_of_le fits]
    rfl
  · rw [load_of_gt (Nat.not_le.1 fits), load_of_gt (Nat.not_le.1 fits)]
    rfl

/-- Loading erases all history. After any inquiries to a new machine an image of at most 256 bytes
is accepted and stands in memory with everything else as at the start, and a larger one is refused
and leaves a new machine behind; either way the load comes to what it comes to on a new machine. So
what is asked later is answered as if nothing had been asked before the load, and if the image is
refused, as if that had not been asked either. -/
theorem load_erases_history {history : List (Inquiry σ)}
    (h : (new p).inquire history = some (answers, m)) (image : List UInt8) (k : σ) :
    m.load image k = (new p).load image k ∧
    (image.length ≤ 256 → (m.load image k).result = .ok () ∧
      (m.load image k).machine = ⟨p, .start (Memory.zero.overlay image)⟩) ∧
    (256 < image.length → (m.load image k).result = .error (.programTooLarge image.length 256) ∧
      (m.load image k).machine = new p) ∧
    ∀ later : List (Inquiry σ),
      (new p).inquire (history ++ .load image k :: later) =
        ((new p).inquire (.load image k :: later)).map (Prod.map (answers ++ ·) id) ∧
      (256 < image.length → (new p).inquire (history ++ .load image k :: later) =
        ((new p).inquire later).map
          (Prod.map (answers ++ .outcome (m.load image k) :: ·) id)) := by
  have same : m.options = p := options_inquire h
  have anew : m.load image k = (new p).load image k := load_eq_of_options_eq same image k
  have forgotten (later : List (Inquiry σ)) :
      (new p).inquire (history ++ .load image k :: later) =
        ((new p).inquire (.load image k :: later)).map (Prod.map (answers ++ ·) id) := by
    rw [inquire_append h, inquire_load, inquire_load, anew]
  have refused (large : 256 < image.length) :
      m.load image k = ⟨.error (.programTooLarge image.length 256), new p, k, []⟩ := by
    rw [anew, load_of_gt large]
    rfl
  refine ⟨anew, ?_, ?_, ?_⟩
  · intro fits
    rw [anew, load_of_le fits]
    exact ⟨rfl, rfl⟩
  · intro large
    rw [refused large]
    exact ⟨rfl, rfl⟩
  · intro later
    refine ⟨forgotten later, ?_⟩
    intro large
    rw [forgotten, inquire_load, ← anew, refused large, Option.map_map]
    rfl

/-- To load a program that pushes a value and then fails, to make its steps, and to ask for a
report. -/
def pushesThenFails : List (Inquiry LineSink) :=
  [.load [0x82, 3, 9, 0x45, 3, 0xFF] .unlimited, .use (.call .step) .unlimited,
    .use (.call .step) .unlimited, .use (.call .step) .unlimited, .display .report]

/-- The pushed value is in memory, and neither a small image nor a large one leaves it there. -/
theorem pushesThenFails_is_erased :
    ∃ m answers, (new ⟨true, true, false⟩).inquire pushesThenFails = some (answers, m) ∧
      m.state.memory.read 0xF3 = 9 ∧
      (m.load [0x01] LineSink.unlimited).machine =
        ⟨⟨true, true, false⟩, .start (Memory.zero.overlay [0x01])⟩ ∧
      (m.load (List.replicate 300 0x01) LineSink.unlimited).machine = new ⟨true, true, false⟩ := by
  have answered : ((new ⟨true, true, false⟩).inquire pushesThenFails).any
      (fun r => r.2.state.memory.read 0xF3 == 9) = true := by
    decide +kernel
  obtain ⟨⟨answers, m⟩, h, pushed⟩ := (Option.any_eq_true _ _).1 answered
  obtain ⟨-, small, -, -⟩ := load_erases_history h [0x01] LineSink.unlimited
  obtain ⟨-, -, large, -⟩ := load_erases_history h (List.replicate 300 0x01) LineSink.unlimited
  rw [List.length_replicate] at large
  exact ⟨m, answers, h, by simpa using pushed, (small (by simp)).2, (large (by omega)).2⟩

end Machine

end ByteMachine
