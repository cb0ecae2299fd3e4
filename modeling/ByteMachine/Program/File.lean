import ByteMachine.Program.FileTree
import ByteMachine.Program.Source

/-!
# Program files

A program file holds a source. What can go wrong is that the file cannot be read or that its text
is no program; the report names the path as it was given and the directory it is relative to.
-/
namespace ByteMachine

/-- A directory on whose files the program works: its name, and how a path in it is read. -/
structure Directory where
  name : String
  read : String → Except ReadFailure ByteArray

/-- Why no image could be made of a file. -/
inductive LoadError where
  | unreadable (failure : ReadFailure)
  | source (error : SourceError)
  deriving DecidableEq, Repr

namespace LoadError

/-- The error in words. -/
def message : LoadError → String
  | unreadable failure => failure.message
  | source error => error.message

end LoadError

/-- A file that is no program. -/
structure ProgramError where
  path : String
  directory : String
  reason : LoadError
  deriving DecidableEq, Repr

namespace ProgramError

/-- The error in words. -/
def message (e : ProgramError) : String :=
  "could not load " ++ e.path ++ " from " ++ e.directory ++ ": " ++ e.reason.message

end ProgramError

namespace Directory

/-- The text of a file. -/
def readText (d : Directory) (path : String) : Except ReadFailure String :=
  match d.read path with
  | .error failure => .error failure
  | .ok content =>
    match String.fromUTF8? content with
    | some text => .ok text
    | none => .error .notUtf8

/-- The image that the source in a file describes, or why there is none. -/
def readImage (d : Directory) (path : String) : Except LoadError (List UInt8) :=
  match d.readText path with
  | .error failure => .error (.unreadable failure)
  | .ok text =>
    match Source.parse text with
    | .error error => .error (.source error)
    | .ok image => .ok image

/-- The image that the source in a file describes. -/
def readProgram (d : Directory) (path : String) : Except ProgramError (List UInt8) :=
  match d.readImage path with
  | .error reason => .error ⟨path, d.name, reason⟩
  | .ok image => .ok image

end Directory

end ByteMachine
