import ByteMachine.Proofs.Numerals
import ByteMachine.Text.LowerCase

/-!
# Folding case in ASCII

The full lower-case mapping does on ASCII what the mapping of ASCII letters does. Behind ASCII only
one character has a lower-case form within it, the Kelvin sign, whose form is `k`. So a text of
other ASCII characters is the lower-case form of the same texts under both mappings
(`Text.lowerAfter_eq_iff`), and case can be folded in ASCII where only such texts are looked for.
-/
namespace ByteMachine.Text

variable {c : Char} {before cs : List Char}

/-! ## Characters -/

/-- What a character behind ASCII leaves in a lower-case form: for the Kelvin sign a `k`, for all
others something behind ASCII again. -/
def IsForeign (c : Char) : Prop := c = 'k' ∨ 128 ≤ c.toNat

instance : DecidablePred IsForeign :=
  fun c => inferInstanceAs (Decidable (c = 'k' ∨ 128 ≤ c.toNat))

theorem lowerChar_of_ascii (hc : c.toNat < 128) : lowerChar c = [c.toLower] :=
  forall_ascii (P := fun c => lowerChar c = [c.toLower]) (by decide +kernel) hc

/-- Where the runs lead to: all of ASCII stays in ASCII, and what is behind it stays behind it, the
Kelvin sign apart. -/
theorem caseRuns_lead : ∀ run ∈ caseRuns, run.last < 128 ∨
    run.first = 0x212A ∧ run.last = 0x212A ∧ run.shift = -8383 ∨
    128 ≤ run.first + run.shift ∧ run.last + run.shift < 0xD800 ∨
    0xDFFF < run.first + run.shift ∧ run.last + run.shift < 0x110000 := by
  decide +kernel

theorem toNat_ofNat_of_valid {n : Nat} (h : n.isValidChar) : (Char.ofNat n).toNat = n := by
  rw [Char.ofNat, dif_pos h]
  rfl

theorem lowerChar_of_covered {run : CaseRun} (hc : c ≠ '\u0130')
    (h : caseRuns.find? (·.covers c.toNat) = some run) :
    lowerChar c = [Char.ofNat (c.toNat + run.shift).toNat] := by
  rw [lowerChar, if_neg hc, h]

theorem lowerChar_of_not_covered (hc : c ≠ '\u0130')
    (h : caseRuns.find? (·.covers c.toNat) = none) : lowerChar c = [c] := by
  rw [lowerChar, if_neg hc, h]

theorem exists_foreign_of_lowerChar (hc : 128 ≤ c.toNat) : ∃ d ∈ lowerChar c, IsForeign d := by
  by_cases dotted : c = '\u0130'
  · subst dotted
    exact ⟨'\u0307', by decide, .inr (by decide)⟩
  cases hf : caseRuns.find? (·.covers c.toNat) with
  | none =>
    rw [lowerChar_of_not_covered dotted hf]
    exact ⟨c, List.mem_singleton_self c, .inr hc⟩
  | some run =>
    have covers := List.find?_some hf
    have lead := caseRuns_lead run (List.mem_of_find?_eq_some hf)
    simp only [CaseRun.covers, Bool.and_eq_true, decide_eq_true_eq] at covers
    rw [lowerChar_of_covered dotted hf]
    refine ⟨_, List.mem_singleton_self _, ?_⟩
    rcases lead with ascii | ⟨first, last, shift⟩ | low | high
    · omega
    · have kelvin : c.toNat = 0x212A := by omega
      rw [kelvin, shift]
      exact .inl rfl
    · refine .inr ?_
      rw [toNat_ofNat_of_valid (.inl (by omega))]
      omega
    · refine .inr ?_
      rw [toNat_ofNat_of_valid (.inr (by omega))]
      omega

/-! ## Texts -/

theorem lowerAfter_of_ascii (h : ∀ c ∈ cs, c.toNat < 128) :
    lowerAfter before cs = cs.map Char.toLower := by
  induction cs generalizing before with
  | nil => rfl
  | cons c cs ih =>
    rw [List.forall_mem_cons] at h
    have notSigma : c ≠ 'Σ' := by
      rintro rfl
      exact absurd h.1 (by decide)
    rw [lowerAfter, if_neg notSigma, lowerChar_of_ascii h.1, ih h.2, List.map_cons,
      List.singleton_append]

theorem exists_foreign_of_lowerAfter (before : List Char) (hc : c ∈ cs)
    (behind : 128 ≤ c.toNat) : ∃ d ∈ lowerAfter before cs, IsForeign d := by
  induction cs generalizing before with
  | nil => simp at hc
  | cons e cs ih =>
    rw [lowerAfter]
    rcases List.mem_cons.1 hc with rfl | later
    · by_cases sigma : c = 'Σ'
      · rw [if_pos sigma]
        refine ⟨_, List.mem_append_left _ (List.mem_singleton_self _), .inr ?_⟩
        split <;> decide
      · rw [if_neg sigma]
        have ⟨d, hd, foreign⟩ := exists_foreign_of_lowerChar behind
        exact ⟨d, List.mem_append_left _ hd, foreign⟩
    · have ⟨d, hd, foreign⟩ := ih (e :: before) later
      exact ⟨d, List.mem_append_right _ hd, foreign⟩

/-- A text of ASCII characters other than `k` is the lower-case form of the same texts, whether all
case is mapped or that of ASCII letters only. -/
theorem lowerAfter_eq_iff {text : List Char} (h : ∀ c ∈ text, ¬IsForeign c) :
    lowerAfter before cs = text ↔ cs.map Char.toLower = text := by
  by_cases ascii : ∀ c ∈ cs, c.toNat < 128
  · rw [lowerAfter_of_ascii ascii]
  · obtain ⟨c, hc, behind⟩ : ∃ c ∈ cs, 128 ≤ c.toNat := by simpa using ascii
    -- Neither form is the text, since both have a character that it lacks.
    constructor
    · rintro rfl
      have ⟨d, hd, foreign⟩ := exists_foreign_of_lowerAfter before hc behind
      exact absurd foreign (h d hd)
    · rintro rfl
      have kept : c ∈ cs.map Char.toLower :=
        List.mem_map.2 ⟨c, hc, toLower_of_not_ascii behind⟩
      exact absurd (.inr behind) (h c kept)

end ByteMachine.Text
