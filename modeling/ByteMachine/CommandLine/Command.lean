import ByteMachine.CommandLine.Reader
import ByteMachine.Debugger.Session
import ByteMachine.Program.File

/-!
# The command

The command reads a program file and runs it, under the debugger if that is asked for. What it comes
to is an `Exit`: a status, and what was written to the two output channels. The status tells apart a
command line that is not understood, a file that is no program, and a program that fails. Before a
machine starts everything is settled by `prepare`; what becomes of the machine is told by
`conclude`. The words of a command line begin with the name by which the program is called. The
reader of the other words and the line editor of the debugger are given to the command
(`carryOut`); `run` is the command with the standard ones, called by its own name.
-/
namespace ByteMachine.CommandLine

/-- How the command ends. -/
inductive Status where
  | success | failure | invalidProgram | runtimeFailure
  deriving DecidableEq, Repr

namespace Status

/-- The statuses in the order of their codes. -/
def all : List Status := [success, failure, invalidProgram, runtimeFailure]

/-- The exit code of the status. -/
def code : Status → UInt8
  | success => 0
  | failure => 1
  | invalidProgram => 2
  | runtimeFailure => 101

end Status

/-- What the command comes to. On the channel for errors the log comes before the complaint. -/
structure Exit where
  status : Status
  output : String
  log : List LogEntry
  complaint : String

/-- The text on the channel for errors, with the given time stamp in the log. -/
def Exit.errors (e : Exit) (stamp : String) : String := renderLog stamp e.log ++ e.complaint

/-- The name of the program. -/
def programName : String := "ls8-rs"

/-- The name by which the program is called. -/
def calledName (words : List String) : String := words.head?.getD programName

/-- How the program is used that is called so. -/
def usageText (reader : ArgumentReader) (words : List String) : String :=
  reader.usage ("Usage: " ++ calledName words ++ " [options] PROGRAM")

/-- A line of complaint under the name of the program. -/
def complaintOf (message : String) : String := programName ++ ": " ++ message ++ "\n"

/-- An exit before any machine has started. -/
def refuse (status : Status) (output message : String) : Exit :=
  ⟨status, output, [], complaintOf message⟩

/-- What a command line asks for: an end at once, or a machine to be started. -/
inductive Plan where
  | stop (exit : Exit)
  | start (machine : Machine) (log : List LogEntry)

/-- The plan for an image. -/
def planImage (options : Options) (image : List UInt8) : Plan :=
  let o := (Machine.new options).load image LineSink.unlimited
  match o.result with
  | .ok () => .start o.machine o.log
  | .error fault => .stop (refuse .invalidProgram "" fault.message)

/-- The plan for a program file. -/
def planFile (d : Directory) (options : Options) (path : String) : Plan :=
  match d.readProgram path with
  | .error e => .stop (refuse .invalidProgram "" e.message)
  | .ok image => planImage options image

/-- The plan for the words of a command line. -/
def prepare (reader : ArgumentReader) (d : Directory) (words : List String) : Plan :=
  match reader.parse words.tail with
  | .error reason => .stop (refuse .failure "" reason)
  | .ok found =>
    if found.has .help then .stop ⟨.success, usageText reader words, [], ""⟩
    else
      match found.free with
      | [] => .stop (refuse .failure (usageText reader words) "no program specified")
      | path :: _ => planFile d found.options path

/-- What is said of a machine that failed: the fault, and the crash report of its state. -/
def faultReport (fault : Fault) (m : Machine) : String :=
  complaintOf fault.message ++ m.state.report ++ "\n"

/-- The exit after a machine has come to its end, behind the log of what went before. -/
def conclude (earlier : List LogEntry) (o : Outcome LineSink) : Exit :=
  match o.result with
  | .ok () => ⟨.success, o.sink.text, earlier ++ o.log, ""⟩
  | .error fault => ⟨.runtimeFailure, o.sink.text, earlier ++ o.log, faultReport fault o.machine⟩

/-- Starts the machine, under the debugger if its options say so, unless the debugger has no editor
to read its commands with. -/
def launch (editor : Debugger.LineEditor) (input : List UInt8) (m : Machine) :
    Except String (Option (Outcome LineSink)) :=
  if m.options.debug then
    editor.start.map fun read => Debugger.session (read input) m .unlimited
  else .ok (m.run .unlimited)

/-- The exit if there is no editor. -/
def giveUp (earlier : List LogEntry) (reason : String) : Exit :=
  { refuse .failure "" ("could not start debugger: " ++ reason) with log := earlier }

/-- Carries out the command in a directory, with the given input; there is no exit if the program
never ends. -/
def carryOut (reader : ArgumentReader) (editor : Debugger.LineEditor) (d : Directory)
    (words : List String) (input : List UInt8) : Option Exit :=
  match prepare reader d words with
  | .stop exit => some exit
  | .start m log =>
    match launch editor input m with
    | .ok o => o.map (conclude log)
    | .error reason => some (giveUp log reason)

/-- Carries out the command with the standard reader and the standard editor. -/
def run (d : Directory) (arguments : List String) (input : List UInt8) : Option Exit :=
  carryOut .standard .standard d (programName :: arguments) input

end ByteMachine.CommandLine
