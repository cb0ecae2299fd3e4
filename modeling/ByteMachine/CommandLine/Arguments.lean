import ByteMachine.Machine

/-!
# Command-line arguments

The program declares four flags. What it is given on a command line is found out by a reader, which
is not part of the program: it says which of the flags are given and which arguments are free, or
why it does not understand the arguments, and it has a text about the flags for those who ask.
-/
namespace ByteMachine.CommandLine

/-- A flag. -/
inductive Flag where
  | help | verbose | trace | debug
  deriving DecidableEq, Repr

namespace Flag

/-- The flags in the order in which they are declared. -/
def all : List Flag := [help, verbose, trace, debug]

/-- The name behind two minus signs. -/
def name : Flag → String
  | help => "help"
  | verbose => "verbose"
  | trace => "trace"
  | debug => "debug"

/-- The letter behind one minus sign. -/
def letter : Flag → Char
  | help => 'h'
  | verbose => 'v'
  | trace => 't'
  | debug => 'd'

/-- What the flag asks for. -/
def description : Flag → String
  | help => "print this help menu"
  | verbose => "log machine events to stderr"
  | trace => "print the machine state before every instruction"
  | debug => "step through the program with an interactive debugger"

end Flag

/-- What is understood of arguments: whether a flag is given, and the free arguments in order. -/
structure Arguments where
  has : Flag → Bool
  free : List String

/-- The options of the machine that the flags ask for. -/
def Arguments.options (arguments : Arguments) : Options where
  verbose := arguments.has .verbose
  trace := arguments.has .trace
  debug := arguments.has .debug

/-- A reader of arguments for the declared flags. -/
structure ArgumentReader where
  /-- What the arguments say, or in words why they are not understood. -/
  parse : List String → Except String Arguments
  /-- How the program is used: what is put in front, and the flags. -/
  usage : String → String

end ByteMachine.CommandLine
