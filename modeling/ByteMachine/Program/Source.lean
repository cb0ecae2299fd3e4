import ByteMachine.Memory
import ByteMachine.Text.Blank
import ByteMachine.Text.Quoted

/-!
# Program sources

A program is written one byte to a line, in binary. On each line the comment is dropped, which
begins at the first `#`, and then only the first word counts; a line without a word stands for
nothing. Bytes are numbered in the order of their lines. The first word that is no byte is reported
with its line, and only a source whose words are all bytes is measured against memory.
-/
namespace ByteMachine

/-- Why a source is no program. -/
inductive SourceError where
  /-- The word on the line is no byte. Lines are counted from 1. -/
  | invalidLiteral (line : Nat) (token : String)
  /-- There are more bytes than memory holds. -/
  | tooLarge (size capacity : Nat)
  deriving DecidableEq, Repr

namespace SourceError

/-- The error in words. -/
def message : SourceError → String
  | invalidLiteral line token =>
    "line " ++ Numeral.decimal line ++ ": " ++ Text.quote token ++
      " is not an 8-bit binary literal"
  | tooLarge size capacity => tooLargeMessage size capacity

end SourceError

namespace Source

/-- The word of a line, or nothing if the line has none. -/
def word (line : List Char) : List Char := Text.firstWord (line.takeWhile (· != '#'))

/-- The byte that a word stands for: a binary numeral below 256. -/
def byte? (word : List Char) : Option UInt8 :=
  match Numeral.read? 2 word with
  | some n => if n < 256 then some (UInt8.ofNat n) else none
  | none => none

/-- The words of a text with the numbers of their lines. -/
def words (text : List Char) : List (List Char × Nat) :=
  ((text.splitOn '\n').map word).zipIdx 1 |>.filter (!·.1.isEmpty)

/-- The byte of a numbered word. -/
def readWord (entry : List Char × Nat) : Except SourceError UInt8 :=
  match byte? entry.1 with
  | some b => .ok b
  | none => .error (.invalidLiteral entry.2 (String.ofList entry.1))

/-- The bytes of all words, however many they are. -/
def readWords (text : List Char) : Except SourceError (List UInt8) :=
  (words text).mapM readWord

/-- The image that a source describes. -/
def parse (source : String) : Except SourceError (List UInt8) :=
  match readWords source.toList with
  | .error e => .error e
  | .ok image =>
    if image.length ≤ Memory.size then .ok image
    else .error (.tooLarge image.length Memory.size)

end Source

end ByteMachine
