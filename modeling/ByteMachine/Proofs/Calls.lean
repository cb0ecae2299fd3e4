import Mathlib.Data.List.Forall2
import ByteMachine.Machine.Run

/-!
# Calls

A machine is used by calls: it loads an image, makes one step or runs. Each call is handed a sink of
its own, and a call that fails does not keep the next one from being made. What a sequence of calls
comes to is the list of its outcomes; there is no such list if one of the calls never ends.
-/
namespace ByteMachine

/-- Something that a machine can be asked to do. -/
inductive Call where
  | load (image : List UInt8)
  | step
  | run
  deriving DecidableEq, Repr

namespace Call

/-- Whether the call forgets what was loaded before. -/
def loads : Call → Bool
  | load _ => true
  | step | run => false

variable {σ : Type} [Sink σ]

/-- Makes the call; there is no outcome if it never ends. -/
def perform (c : Call) (m : Machine) (k : σ) : Option (Outcome σ) :=
  match c with
  | load image => some (m.load image k)
  | step => some (m.step k)
  | run => m.run k

end Call

namespace Machine

variable {σ : Type} [Sink σ]

/-- The outcomes of calls that are made one after the other, each with its own sink. -/
def outcomes : List (Call × σ) → Machine → Option (List (Outcome σ))
  | [], _ => some []
  | (c, k) :: calls, m =>
    (c.perform m k).bind fun o => (outcomes calls o.machine).map (o :: ·)

@[simp] theorem outcomes_nil (m : Machine) : outcomes ([] : List (Call × σ)) m = some [] := rfl

theorem outcomes_cons {c : Call} {m : Machine} {k : σ} {o : Outcome σ}
    (h : c.perform m k = some o) (calls : List (Call × σ)) :
    outcomes ((c, k) :: calls) m = (outcomes calls o.machine).map (o :: ·) := by
  simp [outcomes, h]

/-- Calls that leave the machine where it is have outcomes if each of them has one. -/
theorem outcomes_of_staying {m : Machine} {R : Call × σ → Outcome σ → Prop}
    (calls : List (Call × σ))
    (stays : ∀ c ∈ calls, ∃ o, c.1.perform m c.2 = some o ∧ o.machine = m ∧ R c o) :
    ∃ os, outcomes calls m = some os ∧ List.Forall₂ R calls os := by
  induction calls with
  | nil => exact ⟨[], rfl, .nil⟩
  | cons c calls ih =>
    obtain ⟨o, ho, same, here⟩ := stays c List.mem_cons_self
    obtain ⟨os, hos, later⟩ := ih fun d hd => stays d (List.mem_cons_of_mem c hd)
    refine ⟨o :: os, ?_, .cons here later⟩
    rw [outcomes_cons ho, same, hos, Option.map_some]

end Machine

end ByteMachine
