import ByteMachine.Debugger.Command
import ByteMachine.Proofs.Folding

/-!
# What the debugger reads as a number

An argument is a number if it is written in one of three ways, apart from the case of its letters:
in hexadecimal behind `0x`, in binary behind `0b`, or in decimal, and if the number fits a word of
64 bits. All other arguments are given back with a complaint; in particular no numeral is so large
that it wraps around. Case is folded in ASCII here. The mapping of all letters to lower case would
give the same answers (`readNotation?_lowerCase`), for it makes digits and marks of ASCII only.
-/
namespace ByteMachine.Debugger

open Numeral Text

/-- The texts differ at most in the case of ASCII letters. -/
def SameUpToCase (s t : List Char) : Prop := s.map Char.toLower = t.map Char.toLower

/-- The text is written as a number, with the letters of the mark in lower case. -/
inductive Notates : List Char → Nat → Prop where
  | hexadecimal {numeral n} (h : IsNumeral 16 numeral n) : Notates ('0' :: 'x' :: numeral) n
  | binary {numeral n} (h : IsNumeral 2 numeral n) : Notates ('0' :: 'b' :: numeral) n
  | decimal {numeral n} (notHex : ¬['0', 'x'] <+: numeral) (notBinary : ¬['0', 'b'] <+: numeral)
      (h : IsNumeral 10 numeral n) : Notates numeral n

/-- The text stands for a number, whatever the case of its letters is. -/
def StandsFor (text : String) (n : Nat) : Prop := ∃ t, SameUpToCase text.toList t ∧ Notates t n

variable {text : String} {t : List Char} {m n : Nat}

/-! ## Numbers of any size -/

theorem readNotation?_of_not_marked (notHex : ¬['0', 'x'] <+: t) (notBinary : ¬['0', 'b'] <+: t) :
    readNotation? t = read? 10 t := by
  rw [readNotation?]
  · rintro numeral rfl
    exact notHex ⟨numeral, rfl⟩
  · rintro numeral rfl
    exact notBinary ⟨numeral, rfl⟩

theorem readNotation?_eq_some_iff : readNotation? t = some n ↔ Notates t n := by
  constructor
  · intro read
    by_cases notHex : ['0', 'x'] <+: t
    · obtain ⟨numeral, rfl⟩ := notHex
      exact .hexadecimal ((read?_eq_some_iff (by decide)).1 read)
    by_cases notBinary : ['0', 'b'] <+: t
    · obtain ⟨numeral, rfl⟩ := notBinary
      exact .binary ((read?_eq_some_iff (by decide)).1 read)
    · rw [readNotation?_of_not_marked notHex notBinary] at read
      exact .decimal notHex notBinary ((read?_eq_some_iff (by decide)).1 read)
  · intro notates
    cases notates with
    | hexadecimal h => exact (read?_eq_some_iff (by decide)).2 h
    | binary h => exact (read?_eq_some_iff (by decide)).2 h
    | decimal notHex notBinary h =>
      rw [readNotation?_of_not_marked notHex notBinary]
      exact (read?_eq_some_iff (by decide)).2 h

theorem Notates.toLower (h : Notates t n) : Notates (t.map Char.toLower) n := by
  cases h with
  | hexadecimal h => exact .hexadecimal h.toLower
  | binary h => exact .binary h.toLower
  | decimal _ _ h =>
    -- Neither `x` nor `b` is a digit in decimal, so the lower-case form has no mark either.
    have unmarked (mark : Char) (hm : digit? 10 mark = none) :
        ¬['0', mark] <+: t.map Char.toLower := by
      rintro ⟨numeral, same⟩
      have read := (read?_eq_some_iff (by decide)).2 h.toLower
      have zero : digit? 10 '0' = some 0 := rfl
      rw [← same] at read
      simp [read?, value?, valueFrom?, zero, hm] at read
    exact .decimal (unmarked 'x' rfl) (unmarked 'b' rfl) h.toLower

theorem standsFor_iff :
    StandsFor text n ↔ readNotation? (text.toList.map Char.toLower) = some n := by
  rw [readNotation?_eq_some_iff]
  constructor
  · rintro ⟨t, same, notates⟩
    rw [same]
    exact notates.toLower
  · intro notates
    refine ⟨text.toList.map Char.toLower, ?_, notates⟩
    rw [SameUpToCase, List.map_map]
    exact List.map_congr_left fun c _ => (toLower_toLower c).symm

theorem StandsFor.unique (hm : StandsFor text m) (hn : StandsFor text n) : m = n := by
  rw [standsFor_iff] at hm hn
  exact Option.some.inj (hm.symm.trans hn)

/-! ## Letters behind ASCII -/

theorem not_isForeign_of_isDigit {base d : Nat} {c : Char} (hb : base ≤ 16)
    (h : IsDigit base c d) : ¬IsForeign c := by
  have digits : ∀ d < 16, 'k' ≠ d.digitChar ∧ d.digitChar.toNat < 128 := by decide
  have ⟨notK, ascii⟩ := digits d (Nat.lt_of_lt_of_le h.1 hb)
  rintro (rfl | behind)
  · exact notK h.2
  · rw [← h.2, toLower_of_not_ascii behind] at ascii
    omega

theorem not_isForeign_of_isNumeral {base : Nat} (hb : base ≤ 16) (h : IsNumeral base t n) :
    ∀ c ∈ t, ¬IsForeign c := by
  obtain ⟨digits, signed, made⟩ := h
  have unsigned : ∀ c ∈ digits, ¬IsForeign c := by
    intro c hc
    have ⟨d, hd⟩ := made.exists_isDigit hc
    exact not_isForeign_of_isDigit hb hd
  rcases signed with rfl | rfl
  · exact unsigned
  · exact List.forall_mem_cons.2 ⟨by decide, unsigned⟩

theorem Notates.not_isForeign (h : Notates t n) : ∀ c ∈ t, ¬IsForeign c := by
  cases h with
  | hexadecimal h =>
    have digits := not_isForeign_of_isNumeral (by decide) h
    exact List.forall_mem_cons.2 ⟨by decide, List.forall_mem_cons.2 ⟨by decide, digits⟩⟩
  | binary h =>
    have digits := not_isForeign_of_isNumeral (by decide) h
    exact List.forall_mem_cons.2 ⟨by decide, List.forall_mem_cons.2 ⟨by decide, digits⟩⟩
  | decimal _ _ h => exact not_isForeign_of_isNumeral (by decide) h

theorem StandsFor.ascii (h : StandsFor text n) : ∀ c ∈ text.toList, c.toNat < 128 := by
  rw [standsFor_iff, readNotation?_eq_some_iff] at h
  intro c hc
  by_contra behind
  have kept : c ∈ text.toList.map Char.toLower :=
    List.mem_map.2 ⟨c, hc, toLower_of_not_ascii (by omega)⟩
  exact h.not_isForeign c kept (.inr (by omega))

/-- Mapping all letters to lower case reads the same numbers. -/
theorem readNotation?_lowerCase (text : String) :
    readNotation? (lowerCase text).toList = readNotation? (text.toList.map Char.toLower) := by
  rw [lowerCase, String.toList_ofList]
  refine Option.ext fun n => ?_
  simp only [readNotation?_eq_some_iff]
  constructor
  · intro notates
    rwa [(lowerAfter_eq_iff notates.not_isForeign).1 rfl]
  · intro notates
    rwa [(lowerAfter_eq_iff notates.not_isForeign).2 rfl]

/-! ## Numbers that fit a word -/

theorem readNumber?_eq_some_iff :
    readNumber? text = some n ↔ n < numberBound ∧ StandsFor text n := by
  rw [readNumber?, standsFor_iff]
  cases readNotation? (text.toList.map Char.toLower) with
  | none => simp
  | some m =>
    by_cases small : m < numberBound
    · simp only [small, if_true, Option.some.injEq]
      constructor
      · rintro rfl
        exact ⟨small, rfl⟩
      · exact And.right
    · simp only [small, if_false, Option.some.injEq]
      constructor
      · simp
      · rintro ⟨small', rfl⟩
        exact absurd small' small

theorem readNumber_eq_ok_iff : readNumber text = .ok n ↔ n < numberBound ∧ StandsFor text n := by
  rw [← readNumber?_eq_some_iff, readNumber]
  cases readNumber? text <;> simp

theorem readNumber_eq_error_iff {complaint : Complaint} :
    readNumber text = .error complaint ↔
      complaint = .invalidNumber text ∧ ¬∃ n < numberBound, StandsFor text n := by
  have none : (¬∃ n < numberBound, StandsFor text n) ↔ readNumber? text = none := by
    rw [Option.eq_none_iff_forall_ne_some]
    simp [readNumber?_eq_some_iff]
  rw [none, readNumber]
  cases readNumber? text with
  | none => simp [eq_comm]
  | some n => simp

/-- An argument is read as a number exactly if it stands for one that fits a word of 64 bits. Any
other is given back as it is, numerals that are too large and texts behind ASCII among them. -/
theorem readNumber_iff_standsFor (text : String) :
    (∀ n, readNumber text = .ok n ↔ n < 2 ^ 64 ∧ StandsFor text n) ∧
    (∀ complaint, readNumber text = .error complaint ↔
      complaint = .invalidNumber text ∧ ¬∃ n < 2 ^ 64, StandsFor text n) ∧
    (Complaint.invalidNumber text).message = "invalid number: " ++ text ∧
    (∀ n, 2 ^ 64 ≤ n → StandsFor text n → readNumber text = .error (.invalidNumber text)) ∧
    ((∃ c ∈ text.toList, 128 ≤ c.toNat) → readNumber text = .error (.invalidNumber text)) ∧
    readNotation? (lowerCase text).toList = readNotation? (text.toList.map Char.toLower) := by
  have tooLarge : ∀ n, 2 ^ 64 ≤ n → StandsFor text n →
      readNumber text = .error (.invalidNumber text) := by
    intro n large standsFor
    refine readNumber_eq_error_iff.2 ⟨rfl, ?_⟩
    rintro ⟨m, small, standsFor'⟩
    rw [standsFor'.unique standsFor] at small
    exact absurd large (Nat.not_le.2 small)
  have notAscii : (∃ c ∈ text.toList, 128 ≤ c.toNat) →
      readNumber text = .error (.invalidNumber text) := by
    rintro ⟨c, hc, behind⟩
    refine readNumber_eq_error_iff.2 ⟨rfl, ?_⟩
    rintro ⟨n, -, standsFor⟩
    exact absurd (standsFor.ascii c hc) (Nat.not_lt.2 behind)
  exact ⟨fun n => readNumber_eq_ok_iff, fun complaint => readNumber_eq_error_iff, rfl, tooLarge,
    notAscii, readNotation?_lowerCase text⟩

/-- The largest number is read, and the next one is not. -/
theorem readNumber_at_bound :
    readNumber "0XfFFFffffFFFFffff" = .ok (2 ^ 64 - 1) ∧
    readNumber "+018446744073709551616" =
      .error (.invalidNumber "+018446744073709551616") := by
  have largest : StandsFor "0XfFFFffffFFFFffff" (2 ^ 64 - 1) := standsFor_iff.2 (by decide)
  have next : StandsFor "+018446744073709551616" (2 ^ 64) := standsFor_iff.2 (by decide)
  have ⟨read, _⟩ := readNumber_iff_standsFor "0XfFFFffffFFFFffff"
  have ⟨_, _, _, tooLarge, _⟩ := readNumber_iff_standsFor "+018446744073709551616"
  exact ⟨(read _).2 ⟨by decide, largest⟩, tooLarge _ (Nat.le_refl _) next⟩

end ByteMachine.Debugger
