import ByteMachine.Instruction.Execution
import ByteMachine.Log

/-!
# The machine

A machine is a state with the options that say what is logged. Every operation takes the machine and
a sink and returns an `Outcome`: whether it succeeded, the machine and the sink afterwards, and what
was logged on the way. Operations are put one after the other by `Outcome.andThen`, which stops at
the first failure.

A step that fails keeps the state in which its instruction has left the machine, whatever it is;
`Machine.execute_of_not_halted` finds it to be the state from before the step.
-/
namespace ByteMachine

/-- What is logged, and whether the machine is to be debugged. -/
structure Options where
  /-- Log events. -/
  verbose : Bool
  /-- Log a snapshot before every instruction. -/
  trace : Bool
  /-- Run under the debugger. -/
  debug : Bool
  deriving DecidableEq, Repr

namespace Options

/-- The entry for an event, if events are logged. -/
def logEvent (options : Options) (e : Event) : List LogEntry :=
  if options.verbose then [.event e] else []

/-- The entry for a snapshot, if snapshots are logged. -/
def logTrace (options : Options) (t : Snapshot) : List LogEntry :=
  if options.trace then [.trace t] else []

end Options

/-- A state with options. -/
structure Machine where
  options : Options
  state : State
  deriving DecidableEq

/-- What an operation leads to. -/
structure Outcome (σ : Type) where
  /-- Success, or the reason of the failure. -/
  result : Except Fault Unit
  machine : Machine
  sink : σ
  /-- What was logged during the operation. -/
  log : List LogEntry

namespace Outcome

variable {σ : Type}

/-- Nothing happens, successfully. -/
def done (m : Machine) (k : σ) : Outcome σ := ⟨.ok (), m, k, []⟩

/-- The outcome with more entries in front of its log. -/
def logAfter (o : Outcome σ) (entries : List LogEntry) : Outcome σ :=
  { o with log := entries ++ o.log }

/-- There is nothing left to do: the machine stands halted, or the operation has failed. -/
def Stopped (o : Outcome σ) : Prop := o.machine.state.halted = true ∨ o.result ≠ .ok ()

/-- Goes on with a second operation unless the first one has failed. -/
def andThen (o : Outcome σ) (f : Machine → σ → Outcome σ) : Outcome σ :=
  match o.result with
  | .ok () => (f o.machine o.sink).logAfter o.log
  | .error _ => o

/-- Goes on with a second operation that may never end. -/
def andThen? (o : Outcome σ) (f : Machine → σ → Option (Outcome σ)) : Option (Outcome σ) :=
  match o.result with
  | .ok () => (f o.machine o.sink).map (·.logAfter o.log)
  | .error _ => some o

@[simp] theorem result_logAfter (o : Outcome σ) (entries : List LogEntry) :
    (o.logAfter entries).result = o.result := rfl

@[simp] theorem machine_logAfter (o : Outcome σ) (entries : List LogEntry) :
    (o.logAfter entries).machine = o.machine := rfl

@[simp] theorem sink_logAfter (o : Outcome σ) (entries : List LogEntry) :
    (o.logAfter entries).sink = o.sink := rfl

@[simp] theorem log_logAfter (o : Outcome σ) (entries : List LogEntry) :
    (o.logAfter entries).log = entries ++ o.log := rfl

@[simp] theorem logAfter_nil (o : Outcome σ) : o.logAfter [] = o := rfl

theorem andThen_of_ok {o : Outcome σ} (h : o.result = .ok ()) (f : Machine → σ → Outcome σ) :
    o.andThen f = (f o.machine o.sink).logAfter o.log := by
  simp [andThen, h]

theorem andThen_of_error {o : Outcome σ} {fault : Fault} (h : o.result = .error fault)
    (f : Machine → σ → Outcome σ) : o.andThen f = o := by
  simp [andThen, h]

@[simp] theorem done_andThen (m : Machine) (k : σ) (f : Machine → σ → Outcome σ) :
    (done m k).andThen f = f m k := rfl

/-- An operation that always ends is one that may not. -/
theorem andThen?_some (o : Outcome σ) (f : Machine → σ → Outcome σ) :
    o.andThen? (fun m k => some (f m k)) = some (o.andThen f) := by
  rcases h : o.result with fault | ⟨⟩ <;> simp [andThen?, andThen, h]

/-- To go on with an operation that always ends is to go on with one that may not. -/
theorem map_andThen (o : Option (Outcome σ)) (f : Machine → σ → Outcome σ) :
    o.map (·.andThen f) = o.bind (·.andThen? fun m k => some (f m k)) := by
  simp only [andThen?_some, Option.map_eq_bind, Function.comp_def]

/-- Operations that only report can be grouped in any way. -/
theorem andThen_assoc (o : Outcome σ) (f g : Machine → σ → Outcome σ) :
    (o.andThen f).andThen g = o.andThen fun m k => (f m k).andThen g := by
  rcases h : o.result with fault | ⟨⟩
  · simp [andThen, h]
  · rcases h' : (f o.machine o.sink).result with fault | ⟨⟩
    · simp [andThen, h, h']
    · simp [andThen, h, h', logAfter, List.append_assoc]

end Outcome

namespace Machine

variable {σ : Type}

/-- A machine with nothing loaded. -/
def new (options : Options) : Machine := ⟨options, .start .zero⟩

/-- Whether the machine has halted. -/
def halted (m : Machine) : Bool := m.state.halted

/-- The machine in another state. -/
def withState (m : Machine) (s : State) : Machine := { m with state := s }

@[simp] theorem options_withState (m : Machine) (s : State) :
    (m.withState s).options = m.options := rfl

@[simp] theorem state_withState (m : Machine) (s : State) : (m.withState s).state = s := rfl

@[simp] theorem withState_state (m : Machine) : m.withState m.state = m := rfl

@[simp] theorem halted_withState (m : Machine) (s : State) :
    (m.withState s).halted = s.halted := rfl

/-! ## Operations that leave the sink alone -/

/-- Logs an event and does nothing else. -/
def note (e : Event) (m : Machine) (k : σ) : Outcome σ :=
  ⟨.ok (), m, k, m.options.logEvent e⟩

/-- Clears memory and resets the rest, then copies an image to the addresses from 0 on. An image
that does not fit leaves the machine empty. -/
def load (image : List UInt8) (m : Machine) (k : σ) : Outcome σ :=
  let empty := { m.state with memory := .zero }.reset
  match empty.memory.copyIn image with
  | .ok memory => note (.loaded image.length) (m.withState { empty with memory }) k
  | .error fault => ⟨.error fault, m.withState empty, k, []⟩

/-- What is logged when the machine is about to execute an instruction. -/
def attemptLog (m : Machine) : List LogEntry :=
  m.options.logTrace m.state.snapshot ++
    match m.state.fetch with
    | .ok i => m.options.logEvent (.executing m.state.pc i)
    | .error _ => []

/-- Reports that the machine stands halted, if it does. -/
def noteIfHalted (m : Machine) (k : σ) : Outcome σ :=
  if m.halted then note (.finished m.state.cycles) m k else .done m k

theorem load_of_le {image : List UInt8} (h : image.length ≤ Memory.size) (m : Machine) (k : σ) :
    m.load image k =
      note (.loaded image.length) (m.withState (.start (Memory.zero.overlay image))) k := by
  simp [load, Memory.copyIn_of_le _ h, State.reset, State.start]

theorem load_of_gt {image : List UInt8} (h : Memory.size < image.length) (m : Machine) (k : σ) :
    m.load image k =
      ⟨.error (.programTooLarge image.length Memory.size), m.withState (.start .zero), k, []⟩ := by
  simp [load, Memory.copyIn_of_gt _ h, State.reset]

theorem noteIfHalted_of_halted {m : Machine} (h : m.halted = true) (k : σ) :
    m.noteIfHalted k = note (.finished m.state.cycles) m k := by
  simp [noteIfHalted, h]

theorem noteIfHalted_of_not_halted {m : Machine} (h : m.halted = false) (k : σ) :
    m.noteIfHalted k = .done m k := by
  simp [noteIfHalted, h]

/-! ## Operations that may write -/

variable [Sink σ]

/-- Writes a text and leaves the machine as it is. -/
def say (text : String) (m : Machine) (k : σ) : Outcome σ :=
  match Sink.write k text with
  | (.ok (), k') => ⟨.ok (), m, k', []⟩
  | (.error reason, k') => ⟨.error (.output reason), m, k', []⟩

/-- Flushes the sink. -/
def flush (m : Machine) (k : σ) : Outcome σ :=
  match Sink.flush k with
  | (.ok (), k') => ⟨.ok (), m, k', []⟩
  | (.error reason, k') => ⟨.error (.output reason), m, k', []⟩

/-- Executes the instruction at the program counter. A halted machine does nothing. -/
def execute (m : Machine) (k : σ) : Outcome σ :=
  if m.halted then .done m k
  else
    match m.state.fetch with
    | .error fault => ⟨.error fault, m, k, m.attemptLog⟩
    | .ok i =>
      match i.execute (m.state, k) with
      | .ok () (s, k') => ⟨.ok (), m.withState s.tick, k', m.attemptLog⟩
      | .error fault (s, k') => ⟨.error fault, m.withState s, k', m.attemptLog⟩

/-- Executes one instruction and reports if the machine stands halted afterwards. -/
def step (m : Machine) (k : σ) : Outcome σ := (m.execute k).andThen noteIfHalted

@[simp] theorem machine_say (text : String) (m : Machine) (k : σ) : (m.say text k).machine = m := by
  rcases h : Sink.write k text with ⟨reason | ⟨⟩, k'⟩ <;> simp [say, h]

@[simp] theorem machine_flush (m : Machine) (k : σ) : (m.flush k).machine = m := by
  rcases h : Sink.flush k with ⟨reason | ⟨⟩, k'⟩ <;> simp [flush, h]

theorem execute_of_halted {m : Machine} (h : m.halted = true) (k : σ) :
    m.execute k = .done m k := by
  simp [execute, h]

/-- A machine steps as its state does, except that what is printed goes to the sink first and a sink
that refuses it keeps the machine where it is. -/
theorem execute_of_not_halted {m : Machine} (h : m.halted = false) (k : σ) :
    m.execute k =
      match m.state.next with
      | .error fault => ⟨.error fault, m, k, m.attemptLog⟩
      | .ok s =>
        match m.state.printed? with
        | none => ⟨.ok (), m.withState s, k, m.attemptLog⟩
        | some v =>
          match Sink.write k (printedLine v) with
          | (.ok (), k') => ⟨.ok (), m.withState s, k', m.attemptLog⟩
          | (.error reason, k') => ⟨.error (.output reason), m, k', m.attemptLog⟩ := by
  have hs : m.state.halted = false := h
  rcases hf : m.state.fetch with fault | i
  · simp [execute, h, hf, State.next, hs, bind, Except.bind]
  · rw [execute, if_neg (by simp [h]), hf]
    simp only [Instruction.execute_eq_perform]
    rcases he : i.effect m.state with fault | s
    · simp [Instruction.perform, Instruction.settle, hf, he, State.next, hs, bind, Except.bind]
    · rcases hp : i.printed? m.state with _ | v
      · simp [Instruction.perform, Instruction.settle, hf, he, hp, State.next, State.printed?, hs,
          bind, Except.bind, pure, Except.pure]
      · rcases hw : Sink.write k (printedLine v) with ⟨reason | ⟨⟩, k'⟩ <;>
          simp [Instruction.perform, Instruction.settle, hf, he, hp, hw, State.next, State.printed?,
            hs, bind, Except.bind, pure, Except.pure]

end Machine

end ByteMachine
