/-!
# Flags

The flags register keeps the outcome of the last comparison, one bit for each of the three
outcomes. It is zero until something is compared. A comparison replaces it as a whole, so never
more than one bit is set; the type allows any byte, because the register is a byte of the machine.
-/
namespace ByteMachine

/-- The flags register. -/
structure Flags where
  bits : UInt8
  deriving DecidableEq, Repr

namespace Flags

/-- The bit that stands for an outcome. -/
def bit : Ordering → UInt8
  | .eq => 0b001
  | .gt => 0b010
  | .lt => 0b100

/-- The register before anything is compared. -/
def clear : Flags := ⟨0⟩

/-- The register after a comparison with the given outcome. -/
def ofOrdering (o : Ordering) : Flags := ⟨bit o⟩

/-- Whether the bit of an outcome is set. -/
def shows (fl : Flags) (o : Ordering) : Bool := fl.bits &&& bit o == bit o

/-- Whether the last comparison was of equal values. -/
def equal (fl : Flags) : Bool := fl.shows .eq

/-- Whether the left value was the greater one. -/
def greater (fl : Flags) : Bool := fl.shows .gt

/-- Whether the left value was the smaller one. -/
def less (fl : Flags) : Bool := fl.shows .lt

@[simp] theorem shows_clear (o : Ordering) : clear.shows o = false := by
  cases o <;> rfl

@[simp] theorem shows_ofOrdering (o o' : Ordering) : (ofOrdering o).shows o' = (o == o') := by
  cases o <;> cases o' <;> rfl

end Flags

end ByteMachine
