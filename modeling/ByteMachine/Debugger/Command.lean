import ByteMachine.Debugger.Arguments
import ByteMachine.Debugger.Number
import ByteMachine.Text.LowerCase
import ByteMachine.Text.Quoted

/-!
# Commands

The first argument on a line names a command, by its full name or by its initial, in letters of
either case; the others are for the command to make sense of. The names are ASCII, so case is folded
in ASCII to recognise them. A name that is not recognised is shown in lower case and in quotes.
-/
namespace ByteMachine.Debugger

/-- What a command does. -/
inductive Verb where
  | step | resume | registers | dump | trace | quit
  deriving DecidableEq, Repr

namespace Verb

/-- The verbs in the order in which their names are tried. -/
def all : List Verb := [step, resume, registers, dump, trace, quit]

/-- The full name. -/
def name : Verb → String
  | step => "step"
  | resume => "continue"
  | registers => "regs"
  | dump => "dump"
  | trace => "trace"
  | quit => "quit"

/-- The name of one letter. -/
def initial : Verb → String
  | step => "s"
  | resume => "c"
  | registers => "r"
  | dump => "d"
  | trace => "t"
  | quit => "q"

/-- The verb of a name in lower case. -/
def ofName? (name : String) : Option Verb :=
  all.find? fun v => v.name == name || v.initial == name

@[simp] theorem ofName?_name (v : Verb) : ofName? v.name = some v := by
  cases v <;> decide

@[simp] theorem ofName?_initial (v : Verb) : ofName? v.initial = some v := by
  cases v <;> decide

end Verb

/-- What the debugger has to say about a line that it cannot follow. -/
inductive Complaint where
  /-- The line cannot be read. -/
  | unreadable (reason : String)
  /-- The line cannot be split into arguments. -/
  | malformed (error : SplitError)
  /-- The name is that of no command. -/
  | unknownCommand (name : String)
  /-- The argument is not a number. -/
  | invalidNumber (text : String)
  /-- The address is not one of memory. -/
  | outsideMemory (address : Nat)
  deriving DecidableEq, Repr

namespace Complaint

/-- The complaint in words. -/
def message : Complaint → String
  | unreadable reason => reason
  | malformed error => error.message
  | unknownCommand name => "unknown command " ++ Text.quote name
  | invalidNumber text => "invalid number: " ++ text
  | outsideMemory address => "address 0x" ++ Numeral.hex 1 address ++ " is outside memory"

end Complaint

/-- The number that an argument stands for. -/
def readNumber (text : String) : Except Complaint Nat :=
  match readNumber? text with
  | some n => .ok n
  | none => .error (.invalidNumber text)

/-- A command with its arguments. -/
structure Command where
  verb : Verb
  arguments : List String
  deriving DecidableEq, Repr

namespace Command

/-- The command of a name and arguments. -/
def ofArguments (name : String) (arguments : List String) : Except Complaint Command :=
  match Verb.ofName? (String.ofList (name.toList.map Char.toLower)) with
  | some verb => .ok ⟨verb, arguments⟩
  | none => .error (.unknownCommand (Text.lowerCase name))

/-- The command on a line, if the line has one. -/
def parse (line : String) : Except Complaint (Option Command) :=
  match splitArguments line with
  | .error error => .error (.malformed error)
  | .ok [] => .ok none
  | .ok (name :: arguments) => (ofArguments name arguments).map some

end Command

end ByteMachine.Debugger
