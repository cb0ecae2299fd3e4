import ByteMachine.Program.FileTree

/-!
# Scripts

What a session is asked for is read by a line editor, which is not part of the machine: it may fail
to start, and it decides what the lines of an input are. A session sees nothing of it but the lines.

The standard editor is one for input that nobody types. Lines end at a line feed, which is dropped
together with one carriage return right before it; a last line without a line feed counts and keeps
its carriage return. A backspace takes away the character before it. A line that is not UTF-8 cannot
be read at all.
-/
namespace ByteMachine.Debugger

/-- What comes of reading a line. -/
inductive ScriptLine where
  | text (line : String)
  /-- There is no line, for some reason other than that the input has come to its end. -/
  | unreadable (reason : String)
  deriving DecidableEq, Repr

/-- A line editor. -/
structure LineEditor where
  /-- Why it does not start, or what it reads from the bytes of an input, line by line up to the
  end. -/
  start : Except String (List UInt8 → List ScriptLine)

/-- Carries out backspaces on a line; the result has its last character first. -/
def rubOut (line : List Char) : List Char :=
  line.foldl (fun kept c => if c == '\x08' then kept.tail else c :: kept) []

/-- The line that some bytes, without their line end, are read as. -/
def ScriptLine.ofBytes (bytes : List UInt8) : ScriptLine :=
  match String.fromUTF8? ⟨bytes.toArray⟩ with
  | some line => .text (String.ofList (rubOut line.toList).reverse)
  | none => .unreadable ReadFailure.notUtf8.message

/-- A line without the carriage return that belongs to its line end. -/
def dropReturn (bytes : List UInt8) : List UInt8 :=
  if bytes.getLast? = some 13 then bytes.dropLast else bytes

/-- The bytes of the lines of a script, without their line ends. -/
def lineBytes (script : List UInt8) : List (List UInt8) :=
  let pieces := script.splitOn 10
  let last := pieces.getLast?.getD []
  pieces.dropLast.map dropReturn ++ (if last.isEmpty then [] else [last])

/-- The lines of a script. -/
def readScript (script : List UInt8) : List ScriptLine :=
  (lineBytes script).map .ofBytes

/-- The standard editor; it always starts. -/
def LineEditor.standard : LineEditor := ⟨.ok readScript⟩

end ByteMachine.Debugger
