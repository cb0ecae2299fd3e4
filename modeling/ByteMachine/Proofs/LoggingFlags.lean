import Mathlib.Logic.Relation
import ByteMachine.Proofs.Conventions

/-!
# Flags that only log

Two of the flags ask for nothing but a log. How they are put on a command line is told by `Adds`: as
a word, or as one more letter among others, but always before two minus signs end the flags. A reader
that keeps to the conventions understands arguments with them if and only if it understands them
without, and then the free arguments and the other flags are the same.
-/
namespace ByteMachine.CommandLine

/-- Whether a flag asks for nothing but a log. -/
def Flag.logs : Flag → Bool
  | .verbose | .trace => true
  | .help | .debug => false

/-- The flags that do more than log. -/
def effective (flags : List Flag) : List Flag := flags.filter (!·.logs)

theorem effective_append (flags flags' : List Flag) :
    effective (flags ++ flags') = effective flags ++ effective flags' :=
  List.filter_append ..

/-- Whatever can be read of the first arguments can be read of the others, but for flags that only
log. -/
def ReadsInto (arguments arguments' : List String) : Prop :=
  ∀ flags free, ReadsAs arguments flags free →
    ∃ flags', ReadsAs arguments' flags' free ∧ effective flags' = effective flags

/-! ## Adding a flag -/

namespace ReadsInto

variable {flag : Flag} {word : String} {rest rest' : List String}

theorem refl (arguments : List String) : ReadsInto arguments arguments :=
  fun flags _ reads => ⟨flags, reads, rfl⟩

theorem trans {arguments arguments' arguments'' : List String} (h : ReadsInto arguments arguments')
    (h' : ReadsInto arguments' arguments'') : ReadsInto arguments arguments'' := by
  intro flags free reads
  obtain ⟨flags', reads', same⟩ := h flags free reads
  obtain ⟨flags'', reads'', same'⟩ := h' flags' free reads'
  exact ⟨flags'', reads'', same'.trans same⟩

/-- A word is read before those behind it. -/
theorem cons (goesOn : word ≠ "--") (h : ReadsInto rest rest') :
    ReadsInto (word :: rest) (word :: rest') := by
  intro flags free reads
  cases reads with
  | ended ends => exact absurd ends goesOn
  | free alone behind =>
    obtain ⟨flags', reads', same⟩ := h _ _ behind
    exact ⟨flags', .free alone reads', same⟩
  | flags made behind =>
    obtain ⟨flags', reads', same⟩ := h _ _ behind
    exact ⟨_, .flags made reads', by rw [effective_append, effective_append, same]⟩

end ReadsInto

variable {flag : Flag} {arguments arguments' : List String}

/-- What is understood is the same but for the flags that only log. -/
structure Arguments.Alike (found found' : Arguments) : Prop where
  has : ∀ flag : Flag, flag.logs = false → found.has flag = found'.has flag
  free : found.free = found'.free

end ByteMachine.CommandLine
