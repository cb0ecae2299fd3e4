/-!
# Sets of code points

A character class of the Unicode standard is written down as the list of its maximal runs, each by
its first and its last code point. Membership is decided by looking for a run that covers the code
point; nothing depends on the order of the runs.
-/
namespace ByteMachine.Text

/-- Runs of code points, each given by its first and last member. -/
abbrev Ranges := List (Nat × Nat)

namespace Ranges

/-- Some run covers the character. -/
def contains (runs : Ranges) (c : Char) : Bool :=
  runs.any fun run => decide (run.1 ≤ c.toNat) && decide (c.toNat ≤ run.2)

@[simp] theorem contains_nil (c : Char) : contains [] c = false := rfl

@[simp] theorem contains_cons (run : Nat × Nat) (runs : Ranges) (c : Char) :
    contains (run :: runs) c =
      ((decide (run.1 ≤ c.toNat) && decide (c.toNat ≤ run.2)) || runs.contains c) := rfl

end Ranges

end ByteMachine.Text
