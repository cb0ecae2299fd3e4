import ByteMachine.Proofs.Rendering

/-!
# Lines in parts

A line may be cut at any space or tab that is not between quotes, and the parts split by themselves.
What comes before the cut has been finished there, so the arguments of the second part stand behind
those of the first, or the second part fails as it does alone (`splitting_goes_by_parts`). That a
place is not between quotes is the same as that the part before it can be split.
-/
namespace ByteMachine.Debugger

variable {s t : List Char} {words : List (List Char)} {c : Char}

/-! ## Words -/

/-- A line that may end where it does has finished its words with the next space or tab. -/
theorem feed_gap_of_finish {scan : Scan} (ends : scan.finish = .ok words) (hc : isGap c = true) :
    scan.feed c = ⟨words.reverse, .between⟩ := by
  obtain ⟨finished, position⟩ := scan
  cases position with
  | between =>
    obtain rfl := Except.ok.inj ends
    simp [Scan.feed, hc]
  | bare word =>
    obtain rfl := Except.ok.inj ends
    simp [Scan.feed, Scan.close, hc]
  | quoted word | escaped word => cases ends

/-- Nothing but the words is carried over a space or a tab. -/
theorem splitWords_append_gap (hs : splitWords s = .ok words) (hc : isGap c = true)
    (t : List Char) : splitWords (s ++ c :: t) = (splitWords t).map (words ++ ·) := by
  have behind := splitBehind_eq words.reverse t
  rw [List.reverse_reverse] at behind
  rw [splitWords, List.foldl_append, List.foldl_cons, feed_gap_of_finish hs hc, ← behind]
  rfl

theorem splitWords_spacing (gaps : Spacing) (t : List Char) :
    splitWords (gaps.chars ++ t) = splitWords t :=
  splitBehind_spacing gaps [] t

theorem splitWords_append_spacing (hs : splitWords s = .ok words) (gaps : Spacing) :
    splitWords (s ++ gaps.chars) = .ok words := by
  obtain ⟨chars, blank⟩ := gaps
  cases chars with
  | nil => rwa [List.append_nil]
  | cons c chars =>
    rw [List.forall_mem_cons] at blank
    have nothing : splitWords chars = .ok [] := by
      have spaced := splitWords_spacing ⟨chars, blank.2⟩ []
      rwa [List.append_nil] at spaced
    rw [splitWords_append_gap hs blank.1, nothing, Except.map, List.append_nil]

/-! ## Texts -/

/-- The spacing as text. -/
def Spacing.text (gaps : Spacing) : String := String.ofList gaps.chars

theorem splitArguments_eq_ok_iff {line : String} {arguments : List String} :
    splitArguments line = .ok arguments ↔
      ∃ words, splitWords line.toList = .ok words ∧ words.map String.ofList = arguments := by
  rw [splitArguments]
  rcases splitWords line.toList with e | words <;> simp [Except.map]

variable {line : String} {arguments : List String}

theorem splitArguments_push_append (h : splitArguments line = .ok arguments) (hc : isGap c = true)
    (rest : String) :
    splitArguments (line.push c ++ rest) = (splitArguments rest).map (arguments ++ ·) := by
  obtain ⟨words, hw, rfl⟩ := splitArguments_eq_ok_iff.1 h
  have cut := splitWords_append_gap hw hc rest.toList
  simp only [splitArguments, String.toList_append, String.toList_push, List.append_assoc,
    List.singleton_append, cut]
  rcases splitWords rest.toList with e | later <;> simp [Except.map]

theorem splitArguments_spacing (gaps : Spacing) (rest : String) :
    splitArguments (gaps.text ++ rest) = splitArguments rest := by
  simp [splitArguments, Spacing.text, splitWords_spacing]

theorem splitArguments_append_spacing (h : splitArguments line = .ok arguments) (gaps : Spacing) :
    splitArguments (line ++ gaps.text) = .ok arguments := by
  obtain ⟨words, hw, told⟩ := splitArguments_eq_ok_iff.1 h
  refine splitArguments_eq_ok_iff.2 ⟨words, ?_, told⟩
  simpa [Spacing.text] using splitWords_append_spacing hw gaps

/-- Arguments are split part by part. If a line can be split up to a space or a tab, the arguments
of the whole are those of the part before it and behind them those of the part behind it; if the
second part cannot be split, the whole fails with the same error. So spaces and tabs at the start of
a line, at its end, and around others that are not between quotes neither add an argument nor drop
or change one. -/
theorem splitting_goes_by_parts {s t : String} {c : Char} {a : List String}
    (hs : splitArguments s = .ok a) (hc : c = ' ' ∨ c = '\t') :
    (∀ b, splitArguments t = .ok b → splitArguments (s.push c ++ t) = .ok (a ++ b)) ∧
      (∀ e, splitArguments t = .error e → splitArguments (s.push c ++ t) = .error e) ∧
      ∀ before behind : Spacing,
        splitArguments (before.text ++ t) = splitArguments t ∧
        splitArguments (s ++ behind.text) = .ok a ∧
        splitArguments ((s ++ before.text).push c ++ (behind.text ++ t)) =
          splitArguments (s.push c ++ t) := by
  have gap : isGap c = true := by rcases hc with rfl | rfl <;> rfl
  have whole {line : String} (h : splitArguments line = .ok a) (rest : String) :
      splitArguments (line.push c ++ rest) = (splitArguments rest).map (a ++ ·) :=
    splitArguments_push_append h gap rest
  refine ⟨?_, ?_, ?_⟩
  · intro b hb
    rw [whole hs, hb, Except.map]
  · intro e he
    rw [whole hs, he, Except.map]
  · intro before behind
    have spaced := splitArguments_append_spacing hs before
    refine ⟨splitArguments_spacing before t, splitArguments_append_spacing hs behind, ?_⟩
    rw [whole spaced, splitArguments_spacing, whole hs]

/-- A tab behind a closing quote, by itself and with more spacing around it. -/
theorem quoted_word_is_split :
    splitArguments "step \"a b\"" = .ok ["step", "a b"] ∧
      splitArguments "step \"a b\"\tc\"d" = .ok ["step", "a b", "c\"d"] ∧
      splitArguments "step \"a b\"\t\"c d" = .error .unclosedQuote ∧
      splitArguments "step \"a b\" \t\t c\"d" = splitArguments "step \"a b\"\tc\"d" := by
  have first : splitArguments "step \"a b\"" = .ok ["step", "a b"] := by decide +kernel
  have second : splitArguments "c\"d" = .ok ["c\"d"] := by decide +kernel
  have unclosed : splitArguments "\"c d" = .error .unclosedQuote := by decide +kernel
  obtain ⟨joined, -, spaced⟩ := splitting_goes_by_parts (t := "c\"d") first (.inr rfl)
  obtain ⟨-, failed, -⟩ := splitting_goes_by_parts (t := "\"c d") first (.inr rfl)
  exact ⟨first, joined _ second, failed _ unclosed,
    (spaced ⟨[' '], by simp [isGap]⟩ ⟨['\t', ' '], by simp [isGap]⟩).2.2⟩

end ByteMachine.Debugger
