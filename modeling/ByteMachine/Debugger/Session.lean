import ByteMachine.Debugger.Command
import ByteMachine.Debugger.Script
import ByteMachine.Machine.Run

/-!
# Debugging sessions

A session carries out the commands of a script on a machine, one line after the other. What the
debugger has to say goes to the sink of the program, line by line. A line that the debugger cannot
follow is answered by one line and otherwise ignored; a failing instruction, or a sink that refuses
a line, ends the session. Since a script may ask for a run that never ends, a session may have no
outcome.
-/
namespace ByteMachine.Debugger

variable {σ : Type} [Sink σ]

/-! ## Displays -/

/-- What comes next: the instruction at the program counter, or why there is none. -/
def nextText (s : State) : String :=
  if s.halted then "halted at " ++ hexByte s.pc
  else
    hexByte s.pc ++ "  " ++
      match s.fetch with
      | .ok i => i.text
      | .error fault => fault.message

/-- Shows what comes next. -/
def showNext (m : Machine) (k : σ) : Outcome σ := m.say (nextText m.state ++ "\n") k

/-- The line of a complaint. -/
def complaintLine (c : Complaint) : String := "ls8-rs: " ++ c.message ++ "\n"

/-- Shows a complaint. -/
def complain (c : Complaint) (m : Machine) (k : σ) : Outcome σ := m.say (complaintLine c) k

/-- The number of bytes in a row of a dump. -/
def rowLength : Nat := 8

/-- The bytes of a dump in rows, each with the address of its first byte. -/
def dumpRows (address : Nat) (bytes : List UInt8) : List (Nat × List UInt8) :=
  if bytes.isEmpty then []
  else (address, bytes.take rowLength) :: dumpRows (address + rowLength) (bytes.drop rowLength)
  termination_by bytes.length
  decreasing_by
    have : bytes.length ≠ 0 := by simpa using ‹¬bytes.isEmpty = true›
    simp only [List.length_drop, rowLength]
    omega

/-- The line of a row. -/
def rowLine (row : Nat × List UInt8) : String :=
  Numeral.hex 2 row.1 ++ ": " ++ String.intercalate " " (row.2.map hexByte) ++ "\n"

/-- Shows texts one after the other. -/
def sayAll : List String → Machine → σ → Outcome σ
  | [], m, k => .done m k
  | text :: texts, m, k => (m.say text k).andThen (sayAll texts)

/-! ## Commands -/

/-- The number that an optional argument stands for. -/
def numberOr (default : Nat) : Option String → Except Complaint Nat
  | none => .ok default
  | some text => readNumber text

/-- The number of bytes in a dump when none is asked for. -/
def defaultDumpLength : Nat := 16

/-- The start and the length that the arguments of a dump ask for. -/
def dumpRange (s : State) (arguments : List String) : Except Complaint (UInt8 × Nat) := do
  let start ← numberOr s.pc.toNat arguments[0]?
  let length ← numberOr defaultDumpLength arguments[1]?
  if start < Memory.size then return (UInt8.ofNat start, length)
  throw (.outsideMemory start)

/-- Executes a number of instructions and shows what comes next. -/
def step (arguments : List String) (m : Machine) (k : σ) : Outcome σ :=
  match numberOr 1 arguments[0]? with
  | .ok count => (m.stepUpTo count k).andThen showNext
  | .error c => complain c m k

/-- Runs until the machine halts and shows where it stands. -/
def resume (m : Machine) (k : σ) : Option (Outcome σ) := (m.run k).map (·.andThen showNext)

/-- Shows memory in rows. -/
def dump (arguments : List String) (m : Machine) (k : σ) : Outcome σ :=
  match dumpRange m.state arguments with
  | .ok (start, length) =>
    sayAll ((dumpRows start.toNat (m.state.memory.slice start length)).map rowLine) m k
  | .error c => complain c m k

/-- Carries out a command; to quit does nothing here. -/
def perform (command : Command) (m : Machine) (k : σ) : Option (Outcome σ) :=
  match command.verb with
  | .step => some (step command.arguments m k)
  | .resume => resume m k
  | .registers => some (m.say (m.state.report ++ "\n") k)
  | .dump => some (dump command.arguments m k)
  | .trace => some (m.say (m.state.snapshot.text ++ "\n") k)
  | .quit => some (.done m k)

/-! ## Sessions -/

/-- What a line asks for. -/
inductive Request where
  /-- Nothing. -/
  | idle
  /-- To carry out a command. -/
  | command (c : Command)
  /-- To be told what is wrong with the line. -/
  | complaint (c : Complaint)
  /-- To end the session, with a word on the reason if there is one. -/
  | leave (reason : Option Complaint)
  deriving DecidableEq, Repr

/-- What a line of a script asks for. -/
def Request.ofLine : ScriptLine → Request
  | .unreadable reason => .leave (some (.unreadable reason))
  | .text line =>
    match Command.parse line with
    | .error c => .complaint c
    | .ok none => .idle
    | .ok (some found) => if found.verb = .quit then .leave none else .command found

/-- Does what a line asks for, as long as that is not to leave. -/
def answer (request : Request) (m : Machine) (k : σ) : Option (Outcome σ) :=
  match request with
  | .idle | .leave none => some (.done m k)
  | .command c => perform c m k
  | .complaint c | .leave (some c) => some (complain c m k)

/-- Whether a request is the last one of a session. -/
def Request.isLast : Request → Bool
  | .leave _ => true
  | _ => false

/-- Answers requests up to the first that is the last one, behind the log of what went before. -/
def answerFrom (earlier : Array LogEntry) : List Request → Machine → σ → Option (Outcome σ)
  | [], m, k => some ⟨.ok (), m, k, earlier.toList⟩
  | request :: requests, m, k =>
    match answer request m k with
    | none => none
    | some ⟨.ok (), m', k', log⟩ =>
      if request.isLast then some ⟨.ok (), m', k', (earlier ++ log).toList⟩
      else answerFrom (earlier ++ log) requests m' k'
    | some ⟨.error fault, m', k', log⟩ => some ⟨.error fault, m', k', (earlier ++ log).toList⟩

/-- Answers requests up to the first that is the last one. -/
def answerAll (requests : List Request) (m : Machine) (k : σ) : Option (Outcome σ) :=
  answerFrom #[] requests m k

/-- The beginning of a session: it is logged, and what comes next is shown. -/
def beginSession (m : Machine) (k : σ) : Outcome σ := (m.note .debuggerStarted k).andThen showNext

/-- The end of a session: it is logged, and the sink is flushed. -/
def endSession (m : Machine) (k : σ) : Outcome σ := (m.note .debuggerLeft k).andThen Machine.flush

/-- A session with the given lines. -/
def session (lines : List ScriptLine) (m : Machine) (k : σ) : Option (Outcome σ) :=
  ((beginSession m k).andThen? (answerAll (lines.map .ofLine))).map (·.andThen endSession)

theorem answerFrom_eq_logAfter (earlier : Array LogEntry) (requests : List Request) (m : Machine)
    (k : σ) :
    answerFrom earlier requests m k =
      (answerAll requests m k).map (·.logAfter earlier.toList) := by
  induction requests generalizing earlier m k with
  | nil => simp [answerAll, answerFrom, Outcome.logAfter]
  | cons request requests ih =>
    simp only [answerAll, answerFrom]
    rcases answer request m k with _ | ⟨fault | ⟨⟩, m', k', log⟩
    · rfl
    · simp [Outcome.logAfter]
    · by_cases h : request.isLast = true
      · simp [h, Outcome.logAfter]
      · simp [h, ih, Option.map_map, Function.comp_def, Outcome.logAfter]

@[simp] theorem answerAll_nil (m : Machine) (k : σ) : answerAll [] m k = some (.done m k) := rfl

/-- Requests are answered one by one. -/
theorem answerAll_cons (request : Request) (requests : List Request) (m : Machine) (k : σ) :
    answerAll (request :: requests) m k =
      if request.isLast then answer request m k
      else (answer request m k).bind (·.andThen? (answerAll requests)) := by
  rw [answerAll, answerFrom]
  rcases answer request m k with _ | ⟨fault | ⟨⟩, m', k', log⟩
  · simp
  · simp [Outcome.andThen?]
  · by_cases h : request.isLast = true
    · simp [h]
    · simp [h, answerFrom_eq_logAfter, Outcome.andThen?]

theorem answerAll_of_last {request : Request} (h : request.isLast = true)
    (requests : List Request) :
    answerAll (σ := σ) (request :: requests) = answer request := by
  funext m k
  rw [answerAll_cons, if_pos h]

theorem answerAll_of_more {request : Request} (h : request.isLast = false)
    (requests : List Request) :
    answerAll (σ := σ) (request :: requests) =
      fun m k => (answer request m k).bind (·.andThen? (answerAll requests)) := by
  funext m k
  rw [answerAll_cons, if_neg (by simp [h])]

end ByteMachine.Debugger
