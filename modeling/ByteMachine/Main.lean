import ByteMachine.CommandLine.Command
import Std.Time.Format
import Std.Time.Zoned

/-!
# The executable

The command on the files, the clock and the standard streams of the system. A run is carried out
step by step and a session line by line, so that output appears when it is written and a program
that never ends can be watched. A text that the system refuses counts as a failure of the operation
that wrote it, and the machine is then the one from before that operation.
-/
namespace ByteMachine.Main

/-- The local time as it stands in front of events. -/
def timeStamp : IO String := do
  return (← Std.Time.DateTime.now).format "uuuu-MM-dd HH:mm:ss.SSSSSSSSS xxx"

/-- The reason for which the system refused to read a file. A path that goes on behind a file fails
when it is opened, with its name in the error; a directory fails only when it is read. -/
def readFailure : IO.Error → ReadFailure
  | .noFileOrDirectory .. => .missing
  | .inappropriateType (some _) .. => .notDirectory
  | .inappropriateType none .. => .isDirectory
  | e => .system (toString e)

/-- Reads a file, if it is one. -/
def readFile (path : String) : IO (Except ReadFailure ByteArray) := do
  try
    return .ok (← IO.FS.readBinFile path)
  catch e =>
    return .error (readFailure e)

/-- The current directory, with the one file in view that the arguments name. -/
def currentDirectory (arguments : List String) : IO Directory := do
  let name := toString (← IO.currentDir)
  match CommandLine.ArgumentReader.standard.parse arguments with
  | .ok ⟨_, path :: _⟩ =>
    let content ← readFile path
    return ⟨name, fun _ => content⟩
  | _ => return ⟨name, fun _ => .error .missing⟩

/-- Hands on what an operation on a machine logged and wrote. -/
def deliver (before : Machine) (o : Outcome LineSink) : IO (Except Fault Unit × Machine) := do
  unless o.log.isEmpty do
    (← IO.getStderr).putStr (renderLog (← timeStamp) o.log)
  if o.sink.text.isEmpty then return (o.result, o.machine)
  try
    let output ← IO.getStdout
    output.putStr o.sink.text
    output.flush
    return (o.result, o.machine)
  catch e =>
    return (.error (.output (toString e)), before)

/-- Runs a machine step by step. -/
partial def stepOn (m : Machine) : IO (Except Fault Unit × Machine) := do
  if m.halted then return (.ok (), m)
  match ← deliver m (m.step .unlimited) with
  | (.ok (), m) => stepOn m
  | failed => return failed

/-- Runs a machine. -/
def run (m : Machine) : IO (Except Fault Unit × Machine) := do
  match ← deliver m (m.note .running .unlimited) with
  | (.ok (), m) => stepOn m
  | failed => return failed

/-- The bytes of the next line with its line end; there are none at the end of the input. -/
partial def readLine (input : IO.FS.Stream) (line : List UInt8) : IO (List UInt8) := do
  match (← input.read 1).toList with
  | [] => return line.reverse
  | b :: _ => if b = 10 then return (b :: line).reverse else readLine input (b :: line)

/-- Answers the lines of the input one by one. -/
partial def converse (input : IO.FS.Stream) (m : Machine) : IO (Except Fault Unit × Machine) := do
  match (Debugger.readScript (← readLine input [])).map .ofLine with
  | [] => return (.ok (), m)
  | request :: _ =>
    match Debugger.answer request m LineSink.unlimited with
    | none => return (.ok (), m)
    | some o =>
      match ← deliver m o with
      | (.ok (), m) => if request.isLast then return (.ok (), m) else converse input m
      | failed => return failed

/-- Debugs a machine by the lines of standard input. -/
def debug (m : Machine) : IO (Except Fault Unit × Machine) := do
  match ← deliver m (Debugger.beginSession m .unlimited) with
  | (.ok (), m) =>
    match ← converse (← IO.getStdin) m with
    | (.ok (), m) => deliver m (Debugger.endSession m .unlimited)
    | failed => return failed
  | failed => return failed

/-- Hands on an exit. -/
def leave (e : CommandLine.Exit) : IO UInt32 := do
  (← IO.getStdout).putStr e.output
  (← IO.getStderr).putStr (e.errors (← timeStamp))
  return e.status.code.toUInt32

end ByteMachine.Main

open ByteMachine in
/-- Carries out the command. -/
def main (arguments : List String) : IO UInt32 := do
  let words := CommandLine.programName :: arguments
  match CommandLine.prepare .standard (← Main.currentDirectory arguments) words with
  | .stop e => Main.leave e
  | .start m log =>
    discard <| Main.deliver m ⟨.ok (), m, .unlimited, log⟩
    let (result, m) ← if m.options.debug then Main.debug m else Main.run m
    Main.leave (CommandLine.conclude [] ⟨result, m, .unlimited, []⟩)
