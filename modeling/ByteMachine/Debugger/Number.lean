import ByteMachine.Numeral

/-!
# Numbers on a line

A number is written in decimal, in hexadecimal behind `0x`, or in binary behind `0b`. Letters may
have either case, also those of the mark; since all of them are ASCII, so is the folding of case.
Numbers are those of a word of 64 bits, and a numeral of a larger value is not a number.
-/
namespace ByteMachine.Debugger

/-- Numbers are smaller than this. -/
def numberBound : Nat := UInt64.size

/-- The value of a numeral in one of the three notations, in lower case and without a bound. -/
def readNotation? : List Char → Option Nat
  | '0' :: 'x' :: digits => Numeral.read? 16 digits
  | '0' :: 'b' :: digits => Numeral.read? 2 digits
  | digits => Numeral.read? 10 digits

/-- The number that a text stands for. -/
def readNumber? (text : String) : Option Nat :=
  match readNotation? (text.toList.map Char.toLower) with
  | some n => if n < numberBound then some n else none
  | none => none

end ByteMachine.Debugger
