import Mathlib.Data.List.Forall2
import Mathlib.Data.Nat.Digits.Lemmas
import Mathlib.Tactic.Ring
import ByteMachine.State.Report

/-!
# Numerals as numbers

A numeral is read as the number that its digits make up by their places, the highest digit first.
Digits are those of the base, and their letters may have either case. A numeral has at least one
digit, any number of zeros may go before the others, and in front of all of them there may be one
plus sign. Nothing else is read as a number (`Numeral.read?_eq_some_iff`).
-/
namespace ByteMachine

/-! ## Characters within and behind ASCII -/

/-- What is true of the first 128 characters can be checked one by one. -/
theorem forall_ascii {P : Char → Prop} (h : ∀ n < 128, P (Char.ofNat n)) {c : Char}
    (hc : c.toNat < 128) : P c := by
  have here := h c.toNat hc
  rwa [Char.ofNat_toNat] at here

/-- There are no capital letters behind ASCII. -/
theorem toLower_of_not_ascii {c : Char} (hc : 128 ≤ c.toNat) : c.toLower = c := by
  refine dif_neg ?_
  rintro ⟨-, upper⟩
  have upper' : c.toNat ≤ 90 := upper
  omega

theorem toLower_toLower (c : Char) : c.toLower.toLower = c.toLower := by
  by_cases hc : c.toNat < 128
  · exact forall_ascii (P := fun c => c.toLower.toLower = c.toLower) (by decide +kernel) hc
  · have same : c.toLower = c := toLower_of_not_ascii (by omega)
    rw [same, same]

namespace Numeral

/-- The character is the digit of a value in a base, in either case. -/
def IsDigit (base : Nat) (c : Char) (value : Nat) : Prop :=
  value < base ∧ c.toLower = value.digitChar

/-- The digits make up a number by their places; there is at least one of them. -/
def MakeUp (base : Nat) (digits : List Char) (n : Nat) : Prop :=
  digits ≠ [] ∧ ∃ values, List.Forall₂ (IsDigit base) digits values ∧
    Nat.ofDigits base values.reverse = n

/-- A numeral of a number: digits that make it up, behind one plus sign or none. -/
def IsNumeral (base : Nat) (numeral : List Char) (n : Nat) : Prop :=
  ∃ digits, (numeral = digits ∨ numeral = '+' :: digits) ∧ MakeUp base digits n

variable {base d n v : Nat} {c : Char} {cs : List Char}

/-! ## Digits -/

/-- A digit of a smaller base is one of base 16 with a value that the base has. -/
theorem digit?_eq_some_iff_sixteen (hb : base ≤ 16) :
    digit? base c = some d ↔ d < base ∧ digit? 16 c = some d := by
  simp only [digit?, Char.reduceToNat]
  split_ifs <;> simp <;> omega

theorem digit?_of_not_ascii (hc : 128 ≤ c.toNat) : digit? base c = none := by
  have range : 128 ≤ c.val.toNat := hc
  -- Digits, small letters and capitals are ranges of characters that end within ASCII.
  have beyond {last : UInt32} (ascii : last.toNat < 128) : ¬c.val ≤ last := by
    rw [UInt32.le_iff_toNat_le]
    omega
  have digit : c.isDigit = false :=
    Bool.and_eq_false_iff.2 (.inr (decide_eq_false (beyond (by decide))))
  have lower : c.isLower = false :=
    Bool.and_eq_false_iff.2 (.inr (decide_eq_false (beyond (by decide))))
  have upper : c.isUpper = false :=
    decide_eq_false fun between => beyond (by decide) between.2
  simp [digit?, digit, lower, upper]

theorem digit?_sixteen_eq_some_iff (hd : d < 16) :
    digit? 16 c = some d ↔ c.toLower = d.digitChar := by
  by_cases hc : c.toNat < 128
  · have ascii : ∀ n < 128, ∀ d < 16,
        digit? 16 (Char.ofNat n) = some d ↔ (Char.ofNat n).toLower = d.digitChar := by
      decide +kernel
    exact forall_ascii (P := fun c => ∀ d < 16, digit? 16 c = some d ↔ c.toLower = d.digitChar)
      ascii hc d hd
  · have small : ∀ d < 16, d.digitChar.toNat < 128 := by decide
    have other : c.toLower ≠ d.digitChar := by
      intro same
      have within := small d hd
      rw [← same, toLower_of_not_ascii (by omega)] at within
      exact hc within
    simp [digit?_of_not_ascii (Nat.le_of_not_lt hc), other]

theorem digit?_eq_some_iff (hb : base ≤ 16) : digit? base c = some d ↔ IsDigit base c d := by
  rw [digit?_eq_some_iff_sixteen hb]
  refine and_congr_right ?_
  intro hd
  exact digit?_sixteen_eq_some_iff (by omega)

theorem isDigit_toLower : IsDigit base c.toLower d ↔ IsDigit base c d := by
  rw [IsDigit, IsDigit, toLower_toLower]

theorem not_isDigit_plus (hb : base ≤ 16) : ¬IsDigit base '+' d := by
  have none : digit? 16 '+' = none := by decide
  rw [← digit?_eq_some_iff hb, digit?_eq_some_iff_sixteen hb, none]
  simp

/-! ## Numerals -/

/-- Digits that are read after a number move it up by their places. -/
theorem valueFrom?_eq_some_iff (hb : base ≤ 16) :
    valueFrom? base v cs = some n ↔
      ∃ values, List.Forall₂ (IsDigit base) cs values ∧
        v * base ^ cs.length + Nat.ofDigits base values.reverse = n := by
  induction cs generalizing v with
  | nil => simp
  | cons c cs ih =>
    -- The first digit has the highest place, so its weight is told by the number of the others.
    have weigh {d : Nat} {values : List Nat} (h : List.Forall₂ (IsDigit base) cs values) :
        (base * v + d) * base ^ cs.length + Nat.ofDigits base values.reverse =
          v * base ^ (cs.length + 1) + Nat.ofDigits base (d :: values).reverse := by
      rw [List.reverse_cons, Nat.ofDigits_append, Nat.ofDigits_singleton, List.length_reverse,
        h.length_eq]
      ring
    rw [valueFrom?_cons, Option.bind_eq_some_iff]
    simp only [ih, digit?_eq_some_iff hb, List.forall₂_cons_left_iff, List.length_cons]
    constructor
    · rintro ⟨d, first, values, rest, rfl⟩
      exact ⟨d :: values, ⟨d, values, first, rest, rfl⟩, (weigh rest).symm⟩
    · rintro ⟨-, ⟨d, values, first, rest, rfl⟩, rfl⟩
      exact ⟨d, first, values, rest, weigh rest⟩

theorem value?_eq_some_iff (hb : base ≤ 16) : value? base cs = some n ↔ MakeUp base cs n := by
  cases cs with
  | nil => simp [MakeUp]
  | cons c cs =>
    rw [value?_of_ne_nil (List.cons_ne_nil c cs), valueFrom?_eq_some_iff hb, MakeUp]
    simp

theorem MakeUp.exists_isDigit (h : MakeUp base cs n) (hc : c ∈ cs) : ∃ d, IsDigit base c d := by
  obtain ⟨-, values, digits, -⟩ := h
  have both := digits.imp fun c d hd => And.intro (Exists.intro d hd) hd
  exact ((List.forall₂_and_left cs values).1 both).1 c hc

/-- No plus sign is among the digits. -/
theorem MakeUp.not_plus (hb : base ≤ 16) (h : MakeUp base ('+' :: cs) n) : False := by
  have ⟨d, first⟩ := h.exists_isDigit (List.mem_cons_self ..)
  exact not_isDigit_plus hb first

/-- What is read as a number is a numeral of it. -/
theorem read?_eq_some_iff (hb : base ≤ 16) : read? base cs = some n ↔ IsNumeral base cs n := by
  by_cases plus : ∃ ds, cs = '+' :: ds
  · obtain ⟨ds, rfl⟩ := plus
    rw [read?_plus, value?_eq_some_iff hb]
    constructor
    · intro made
      exact ⟨ds, .inr rfl, made⟩
    · rintro ⟨digits, rfl | same, made⟩
      · exact (made.not_plus hb).elim
      · rwa [(List.cons.inj same).2]
  · have bare : read? base cs = value? base cs := by
      rw [read?]
      rintro ds rfl
      exact plus ⟨ds, rfl⟩
    rw [bare, value?_eq_some_iff hb]
    constructor
    · intro made
      exact ⟨cs, .inl rfl, made⟩
    · rintro ⟨digits, rfl | same, made⟩
      · exact made
      · exact absurd ⟨digits, same⟩ plus

/-- The numeral of a number that fits a width has that many digits. -/
theorem length_padded_of_lt {width : Nat} (h1 : 1 < base) (hw : 0 < width) (h : n < base ^ width) :
    (padded base width n).length = width := by
  rw [length_padded, length_digits]
  exact max_eq_left ((Nat.length_toDigits_le_iff h1 hw).2 h)

/-! ## Foreign characters -/

/-- A shortest numeral is made up by digits, so no other character is in it. -/
theorem notMem_digits (h1 : 1 < base) (hb : base ≤ 16) (hc : ∀ d < 16, c.toLower ≠ d.digitChar)
    (n : Nat) : c ∉ digits base n := by
  have made := (value?_eq_some_iff hb).1 (value?_digits h1 hb n)
  intro inside
  have ⟨d, small, same⟩ := made.exists_isDigit inside
  exact hc d (by omega) same

theorem notMem_padded (h1 : 1 < base) (hb : base ≤ 16) (hc : ∀ d < 16, c.toLower ≠ d.digitChar)
    (width n : Nat) : c ∉ padded base width n := by
  have zero : c ≠ '0' := by
    rintro rfl
    exact hc 0 (by decide) rfl
  simp [padded, List.mem_replicate, notMem_digits h1 hb hc, zero]

theorem newline_notMem_digits (h1 : 1 < base) (hb : base ≤ 16) (n : Nat) :
    '\n' ∉ digits base n :=
  notMem_digits h1 hb (by decide) n

theorem newline_notMem_padded (h1 : 1 < base) (hb : base ≤ 16) (width n : Nat) :
    '\n' ∉ padded base width n :=
  notMem_padded h1 hb (by decide) width n

/-! ## Lower case -/

theorem MakeUp.toLower (h : MakeUp base cs n) : MakeUp base (cs.map Char.toLower) n := by
  obtain ⟨nonempty, values, digits, value⟩ := h
  refine ⟨by simpa using nonempty, values, ?_, value⟩
  rw [List.forall₂_map_left_iff]
  exact digits.imp fun c d hc => isDigit_toLower.2 hc

/-- A numeral is one of the same number in lower case. -/
theorem IsNumeral.toLower (h : IsNumeral base cs n) : IsNumeral base (cs.map Char.toLower) n := by
  obtain ⟨digits, signed, made⟩ := h
  refine ⟨digits.map Char.toLower, ?_, made.toLower⟩
  rcases signed with rfl | rfl
  · exact .inl rfl
  · exact .inr rfl

end Numeral

/-! ## Bytes in hexadecimal -/

theorem length_hexByte (b : UInt8) : (hexByte b).toList.length = 2 := by
  rw [toList_hexByte]
  exact Numeral.length_padded_of_lt (by decide) (by decide) b.toNat_lt

theorem notMem_hexByte {c : Char} (hc : ∀ d < 16, c.toLower ≠ d.digitChar) (b : UInt8) :
    c ∉ (hexByte b).toList := by
  rw [toList_hexByte]
  exact Numeral.notMem_padded (by decide) (by decide) hc 2 b.toNat

theorem hexByte_injective {a b : UInt8} (h : hexByte a = hexByte b) : a = b := by
  have digits := congrArg String.toList h
  rw [toList_hexByte, toList_hexByte] at digits
  exact UInt8.toNat_inj.1 (Numeral.padded_injective (by decide) (by decide) digits)

end ByteMachine
