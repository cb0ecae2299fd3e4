import ByteMachine.Text.CodePoints

/-!
# Blanks

The property `White_Space`: the characters that separate words. Line ends are among them.
-/
namespace ByteMachine.Text

/-- The runs of `White_Space`. -/
def blanks : Ranges := [
  (0x0009, 0x000D), (0x0020, 0x0020), (0x0085, 0x0085), (0x00A0, 0x00A0), (0x1680, 0x1680),
  (0x2000, 0x200A), (0x2028, 0x2029), (0x202F, 0x202F), (0x205F, 0x205F), (0x3000, 0x3000)]

/-- Whether the character separates words. -/
def isBlank (c : Char) : Bool := blanks.contains c

/-- The first word of a text: what stands between the blanks at its start and the next blank. -/
def firstWord (cs : List Char) : List Char :=
  (cs.dropWhile isBlank).takeWhile (!isBlank ·)

@[simp] theorem firstWord_nil : firstWord [] = [] := rfl

end ByteMachine.Text
