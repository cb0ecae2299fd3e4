import ByteMachine.Instruction.Listing
import ByteMachine.State.Report

/-!
# The log

The log is an account of what the machine does, apart from what the program writes. Events are
lines with a time stamp and the name of the part that reports; snapshots are bare lines, because
their width is fixed.
-/
namespace ByteMachine

/-- Something that the machine or the debugger did. -/
inductive Event where
  /-- An image of that many bytes was loaded. -/
  | loaded (size : Nat)
  /-- A run began. -/
  | running
  /-- The instruction at the address is about to be executed. -/
  | executing (address : UInt8) (instruction : Instruction)
  /-- The machine stands halted after that many instructions. -/
  | finished (cycles : UInt64)
  /-- A debugging session began. -/
  | debuggerStarted
  /-- A debugging session came to its end. -/
  | debuggerLeft
  deriving DecidableEq, Repr

namespace Event

/-- The part that reports the event. -/
def reporter : Event → String
  | loaded _ | running | finished _ => "vm"
  | executing _ _ => "cpu"
  | debuggerStarted | debuggerLeft => "debugger"

/-- The event in words. -/
def message : Event → String
  | loaded size => "Loaded " ++ Numeral.decimal size ++ " byte program"
  | running => "Running"
  | executing address instruction => hexByte address ++ "  " ++ instruction.text
  | finished cycles =>
    "Execution finished after " ++ Numeral.decimal cycles.toNat ++ " instructions"
  | debuggerStarted => "Starting debugger"
  | debuggerLeft => "Leaving debugger"

end Event

/-- An entry of the log. -/
inductive LogEntry where
  | event (e : Event)
  | trace (t : Snapshot)
  deriving DecidableEq

namespace LogEntry

/-- Whether the entry is a snapshot. -/
def isTrace : LogEntry → Bool
  | event _ => false
  | trace _ => true

/-- The line of the entry, with the given time stamp where the line has one. -/
def render (stamp : String) : LogEntry → String
  | event e => "[" ++ stamp ++ "] -- [" ++ e.reporter ++ "] " ++ e.message ++ "\n"
  | trace t => t.text ++ "\n"

end LogEntry

/-- The lines of a log, each with the given time stamp. -/
def renderLog (stamp : String) (log : List LogEntry) : String :=
  String.join (log.map (LogEntry.render stamp))

end ByteMachine
