import ByteMachine.Text.GraphemeExtend
import ByteMachine.Text.Ignorable
import ByteMachine.Text.Printable

/-!
# Quoted text

Text that comes from outside is shown between double quotes, with everything that could not be
told apart on a screen written out. A character keeps its own shape unless it is the quote, the
backslash, a character that is drawn onto its neighbour or passed over, or one that is not
printable; of these, six have a short form, and the rest are given by their code point.
-/
namespace ByteMachine.Text

/-- Whether the character stands on a screen by itself and can be seen there. -/
def isDistinct (c : Char) : Bool := isPrintable c && !isOverlaid c && !isIgnorable c

/-- A character as it is shown between double quotes. -/
def escape (c : Char) : List Char :=
  match c with
  | '\x00' => ['\\', '0']
  | '\t' => ['\\', 't']
  | '\r' => ['\\', 'r']
  | '\n' => ['\\', 'n']
  | '"' => ['\\', '"']
  | '\\' => ['\\', '\\']
  | c =>
    if isDistinct c then [c]
    else ['\\', 'u', '\x7b'] ++ Nat.toDigits 16 c.toNat ++ ['\x7d']

/-- A text between double quotes, each character escaped as it needs. -/
def quote (text : String) : String :=
  String.ofList ('"' :: text.toList.flatMap escape ++ ['"'])

@[simp] theorem toList_quote (text : String) :
    (quote text).toList = '"' :: text.toList.flatMap escape ++ ['"'] :=
  String.toList_ofList

end ByteMachine.Text
