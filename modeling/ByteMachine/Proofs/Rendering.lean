import Mathlib.Data.List.Chain
import ByteMachine.Proofs.Grammar

/-!
# Written arguments

Whatever the arguments of a command are, they can be written on a line so that they are read again.
Each of them can be written between quotes, with a backslash before every quote and backslash in it;
one that has a first character other than a quote and no space or tab in it can also be written as
it is. Between two of them stand spaces and tabs, of which there need not be any behind a closing
quote.
-/
namespace ByteMachine.Debugger

/-- Whether a character needs a backslash before it between quotes. -/
def isSpecial (c : Char) : Bool := c == '"' || c == '\\'

/-- A character as it is written between quotes. -/
def protect (c : Char) : List Char := if isSpecial c then ['\\', c] else [c]

/-- An argument that can be written as it is. -/
structure Plain (argument : String) : Prop where
  nonempty : argument ≠ ""
  solid : ∀ c ∈ argument.toList, isGap c = false
  notQuoted : argument.toList.head? ≠ some '"'

/-- An argument and the way it is written. -/
inductive Written where
  | quoted (argument : String)
  | bare (argument : String) (plain : Plain argument)

namespace Written

/-- The argument that is written. -/
def argument : Written → String
  | quoted argument => argument
  | bare argument _ => argument

/-- The argument as it stands on a line. -/
def chars : Written → List Char
  | quoted argument => '"' :: argument.toList.flatMap protect ++ ['"']
  | bare argument _ => argument.toList

/-- Whether the argument is written as it is. -/
def isBare : Written → Bool
  | quoted _ => false
  | bare _ _ => true

end Written

/-- Spaces and tabs. -/
structure Spacing where
  chars : List Char
  blank : ∀ c ∈ chars, isGap c = true

/-- Arguments on a line, each with the spacing behind it. Only the last one may be written as it is
without any. -/
structure Rendering where
  indent : Spacing
  entries : List (Written × Spacing)
  apart : entries.IsChain fun entry _ => entry.1.isBare = true → entry.2.chars ≠ []

namespace Rendering

/-- The line. -/
def line (r : Rendering) : String :=
  String.ofList (r.indent.chars ++ r.entries.flatMap fun entry => entry.1.chars ++ entry.2.chars)

/-- The arguments on the line. -/
def arguments (r : Rendering) : List String := r.entries.map (·.1.argument)

end Rendering

/-! ## Reading them again -/

/-- The item by which a character is written between quotes. -/
def Item.ofChar (c : Char) : Item :=
  if h : c = '"' ∨ c = '\\' then escaped c
  else plain c (fun e => h (.inl e)) (fun e => h (.inr e))

@[simp] theorem Item.char_ofChar (c : Char) : (ofChar c).char = c := by
  rw [ofChar]
  split <;> rfl

@[simp] theorem Item.source_ofChar (c : Char) : (ofChar c).source = protect c := by
  rw [ofChar]
  split
  case isTrue h => simp [source, protect, isSpecial, h]
  case isFalse h => simp [source, protect, isSpecial, h]

theorem itemsSource_map_ofChar (cs : List Char) :
    itemsSource (cs.map Item.ofChar) = cs.flatMap protect := by
  rw [itemsSource, List.flatMap_map]
  simp only [Item.source_ofChar]

theorem splitBehind_spacing (s : Spacing) (words : List (List Char)) (line : List Char) :
    splitBehind words (s.chars ++ line) = splitBehind words line := by
  obtain ⟨chars, blank⟩ := s
  induction chars with
  | nil => rfl
  | cons c chars ih =>
    rw [List.forall_mem_cons] at blank
    rw [List.cons_append, splitBehind_gap blank.1]
    exact ih blank.2

/-- An argument is read as it was before it was written, if what follows it does not go on with
it. -/
theorem splitBehind_written (w : Written) {line : List Char} (stops : w.isBare = true → Stops line)
    (words : List (List Char)) :
    splitBehind words (w.chars ++ line) = splitBehind (w.argument.toList :: words) line := by
  cases w with
  | quoted argument =>
    rw [Written.chars, ← itemsSource_map_ofChar, splitBehind_quoted, List.map_map]
    simp [Function.comp_def, Written.argument]
  | bare argument plain =>
    rw [Written.chars, Written.argument]
    obtain ⟨nonempty, solid, notQuoted⟩ := plain
    cases hc : argument.toList with
    | nil => exact absurd (String.toList_eq_nil_iff.1 hc) nonempty
    | cons first front =>
      rw [hc, List.forall_mem_cons] at solid
      rw [hc, List.head?_cons, ne_eq, Option.some.injEq] at notQuoted
      exact splitBehind_bare solid.1 notQuoted solid.2 (stops rfl) words

theorem splitBehind_entries {entries : List (Written × Spacing)}
    (apart : entries.IsChain fun entry _ => entry.1.isBare = true → entry.2.chars ≠ [])
    (words : List (List Char)) :
    splitBehind words (entries.flatMap fun entry => entry.1.chars ++ entry.2.chars) =
      .ok (words.reverse ++ entries.map (·.1.argument.toList)) := by
  induction entries generalizing words with
  | nil => simp
  | cons entry entries ih =>
    obtain ⟨w, s⟩ := entry
    rw [List.isChain_cons] at apart
    have stops : w.isBare = true → Stops (s.chars ++
        entries.flatMap fun entry => entry.1.chars ++ entry.2.chars) := by
      intro bare c hc
      cases hs : s.chars with
      | nil =>
        -- Without spacing there is no further argument, so the line ends here.
        cases entries with
        | nil => simp [hs] at hc
        | cons next entries => exact absurd hs (apart.1 next rfl bare)
      | cons d ds =>
        rw [hs] at hc
        obtain rfl : d = c := by simpa using hc
        exact s.blank d (by simp [hs])
    rw [List.flatMap_cons, List.append_assoc, splitBehind_written w stops, splitBehind_spacing,
      ih apart.2]
    simp

/-- Written arguments are read back. However arguments are written, each between quotes or, if it
can be, as it is, and whatever spacing there is before, between and behind them, the line is split
into these arguments. Every list of arguments can be written. -/
theorem rendering_is_read_back :
    (∀ r : Rendering, splitArguments r.line = .ok r.arguments) ∧
      ∀ arguments : List String, ∃ r : Rendering, r.arguments = arguments := by
  refine ⟨?_, ?_⟩
  · intro r
    have read : splitWords r.line.toList = .ok (r.entries.map (·.1.argument.toList)) := by
      rw [Rendering.line, String.toList_ofList]
      exact (splitBehind_spacing r.indent [] _).trans (splitBehind_entries r.apart [])
    rw [splitArguments, read, Except.map, List.map_map, Rendering.arguments]
    simp [Function.comp_def]
  · intro arguments
    let entries : List (Written × Spacing) := arguments.map fun a => (.quoted a, ⟨[], by simp⟩)
    have apart : entries.IsChain fun entry _ => entry.1.isBare = true → entry.2.chars ≠ [] := by
      refine (List.isChain_map _).2 (List.Pairwise.isChain (List.pairwise_of_forall ?_))
      intro a b bare
      exact absurd bare Bool.false_ne_true
    refine ⟨⟨⟨[], by simp⟩, entries, apart⟩, ?_⟩
    simp [Rendering.arguments, entries, Function.comp_def, Written.argument]

end ByteMachine.Debugger
