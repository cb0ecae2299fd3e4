/-!
# Arguments on a line

A line of the debugger is split at spaces and tabs. A word that begins with a quote ends at the next
quote and may hold anything; inside it a backslash takes the character behind it as it is. Any other
word ends at the next space or tab, and quotes and backslashes in it are ordinary. The line is read
from left to right by `Scan.feed`, one character at a time; what has been read so far is all that
the next character is judged by.
-/
namespace ByteMachine.Debugger

/-- Why a line cannot be split. -/
inductive SplitError where
  /-- A quoted word does not end. -/
  | unclosedQuote
  /-- A backslash in a quoted word has nothing behind it. -/
  | danglingEscape
  deriving DecidableEq, Repr

namespace SplitError

/-- The error in words. -/
def message : SplitError → String
  | unclosedQuote => "quoted arg does not close"
  | danglingEscape => "escape at end of input"

end SplitError

/-- Whether the character stands between words. -/
def isGap (c : Char) : Bool := c == ' ' || c == '\t'

/-- Where in a line the reader is. A word is kept with its last character first. -/
inductive Position where
  /-- Between two words. -/
  | between
  /-- In a word without quotes. -/
  | bare (word : List Char)
  /-- In a quoted word. -/
  | quoted (word : List Char)
  /-- Behind a backslash in a quoted word. -/
  | escaped (word : List Char)
  deriving DecidableEq, Repr

/-- What has been read of a line: the finished words, the last one first, and the position. -/
structure Scan where
  words : List (List Char)
  position : Position
  deriving DecidableEq, Repr

namespace Scan

/-- The start of a line. -/
def start : Scan := ⟨[], .between⟩

/-- A word is finished. -/
def close (s : Scan) (word : List Char) : Scan := ⟨word.reverse :: s.words, .between⟩

/-- The reader is somewhere else in the line. -/
def moveTo (s : Scan) (position : Position) : Scan := { s with position }

/-- Reads one more character. -/
def feed (s : Scan) (c : Char) : Scan :=
  match s.position with
  | .between =>
    if isGap c then s else if c == '"' then s.moveTo (.quoted []) else s.moveTo (.bare [c])
  | .bare word => if isGap c then s.close word else s.moveTo (.bare (c :: word))
  | .quoted word =>
    if c == '"' then s.close word
    else if c == '\\' then s.moveTo (.escaped word)
    else s.moveTo (.quoted (c :: word))
  | .escaped word => s.moveTo (.quoted (c :: word))

/-- Reads the end of the line. -/
def finish (s : Scan) : Except SplitError (List (List Char)) :=
  match s.position with
  | .between => .ok s.words.reverse
  | .bare word => .ok (s.close word).words.reverse
  | .quoted _ => .error .unclosedQuote
  | .escaped _ => .error .danglingEscape

end Scan

/-- The words of a line, as lists of characters. -/
def splitWords (line : List Char) : Except SplitError (List (List Char)) :=
  (line.foldl Scan.feed .start).finish

/-- The arguments on a line. -/
def splitArguments (line : String) : Except SplitError (List String) :=
  (splitWords line.toList).map (·.map String.ofList)

end ByteMachine.Debugger
