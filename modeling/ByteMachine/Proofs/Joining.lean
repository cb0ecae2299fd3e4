import ByteMachine.Proofs.Lines
import ByteMachine.Proofs.Tokens

/-!
# Sources in parts

A source may be cut at any of its line ends and the parts read by themselves. An invalid literal of
the first part is the one that is reported of the whole; one of the second part is reported only if
the first part has none, and its line is counted on from the end of the first part. If neither part
has one, the whole describes the bytes of the first part and behind them those of the second
(`Source.answer_is_made_of_parts`). It does not matter whether the parts fit into memory, because
only the whole is measured.
-/
namespace ByteMachine

/-- The error as it is reported if so many lines are put in front of the source. -/
def SourceError.below (e : SourceError) (count : Nat) : SourceError :=
  match e with
  | invalidLiteral line token => invalidLiteral (line + count) token
  | tooLarge size capacity => tooLarge size capacity

namespace Source

/-! ## Words of parts -/

/-- The words of two parts are those of the whole, in the second part on lines further down. -/
theorem words_append_newline (s t : List Char) :
    words (s ++ '\n' :: t) =
      words s ++ (words t).map (Prod.map id (· + (s.count '\n' + 1))) := by
  have numbered : words t = (((t.splitOn '\n').map word).zipIdx 1).filter (!·.1.isEmpty) := rfl
  rw [words, List.splitOn_append_cons_self, List.map_append, List.zipIdx_append,
    List.filter_append, List.length_map, length_splitOn_newline, numbered,
    Nat.add_comm 1 (s.count '\n' + 1), ← List.map_snd_add_zipIdx_eq_zipIdx, List.filter_map]
  rfl

/-- A blank at the end of a text belongs to no word. -/
theorem words_append_return (text : List Char) : words (text ++ ['\r']) = words text := by
  obtain ⟨ls, rest, inline, hr, rfl⟩ := exists_joinLines_append text
  obtain ⟨token, bears⟩ := exists_bears rest
  have same : word (rest ++ ['\r']) = word rest := by
    rw [(bears.blank_behind (c := '\r') (by decide)).word_eq, bears.word_eq]
  have hr' : '\n' ∉ rest ++ ['\r'] := by simp [hr]
  rw [List.append_assoc, words, words, splitOn_joinLines_append inline hr',
    splitOn_joinLines_append inline hr, List.map_append, List.map_append, List.map_singleton,
    List.map_singleton, same]

theorem readWord_below (e : List Char × Nat) (count : Nat) :
    readWord (Prod.map id (· + count) e) = (readWord e).mapError (·.below count) := by
  obtain ⟨word, line⟩ := e
  rcases hb : byte? word with _ | b <;> simp [readWord, hb, Except.mapError, SourceError.below]

theorem mapM_readWord_below (entries : List (List Char × Nat)) (count : Nat) :
    (entries.map (Prod.map id (· + count))).mapM readWord =
      (entries.mapM readWord).mapError (·.below count) := by
  induction entries with
  | nil => rfl
  | cons e entries ih =>
    rw [List.map_cons, List.mapM_cons, List.mapM_cons, ih, readWord_below]
    rcases readWord e with error | b
    · rfl
    · rcases entries.mapM readWord with error | bytes <;> rfl

/-- Two parts are read one after the other, and the first error ends it. -/
theorem readWords_append_newline (s t : List Char) :
    readWords (s ++ '\n' :: t) =
      match readWords s, readWords t with
      | .error e, _ => .error e
      | .ok _, .error e => .error (e.below (s.count '\n' + 1))
      | .ok p, .ok q => .ok (p ++ q) := by
  simp only [readWords, words_append_newline, List.mapM_append, mapM_readWord_below]
  rcases (words s).mapM readWord with e | p
  · rfl
  · rcases (words t).mapM readWord with e | q <;> rfl

/-! ## What a source describes -/

/-- The source describes the bytes, be they too many for memory or not: its tokens are good, and
these are the bytes that they denote. -/
def Describes (source : String) (image : List UInt8) : Prop :=
  ∃ tokens, List.Forall₂ Bears (lines source.toList) tokens ∧
    List.Forall₂ Denotes tokens.reduceOption image

/-- A literal of the source is reported as invalid. -/
def Invalid (source : String) : Prop :=
  ∃ line token, parse source = .error (.invalidLiteral line token)

/-- The answer to a source that describes the bytes. -/
def measured (image : List UInt8) : Except SourceError (List UInt8) :=
  if image.length ≤ 256 then .ok image else .error (.tooLarge image.length 256)

variable {source : String} {image : List UInt8}

theorem describes_iff : Describes source image ↔ readWords source.toList = .ok image := by
  constructor
  · rintro ⟨tokens, bears, denotes⟩
    rwa [readWords_eq_readTokens bears, readTokens_eq_ok_iff]
  · intro read
    obtain ⟨tokens, bears⟩ := exists_tokens (lines source.toList)
    rw [readWords_eq_readTokens bears, readTokens_eq_ok_iff] at read
    exact ⟨tokens, bears, read⟩

theorem parse_of_describes (h : Describes source image) : parse source = measured image := by
  rw [parse, describes_iff.1 h]
  rfl

/-- Words that cannot be read have an invalid literal among them. -/
theorem exists_describes (valid : ¬Invalid source) : ∃ image, Describes source image := by
  rcases hr : readWords source.toList with e | image
  · obtain ⟨tokens, bears⟩ := exists_tokens (lines source.toList)
    have read := (readWords_eq_readTokens bears).symm.trans hr
    obtain ⟨line, token, -, rfl⟩ := readTokens_eq_error_iff.1 read
    exact absurd ⟨line, token, parse_eq_invalidLiteral_iff.2 hr⟩ valid
  · exact ⟨image, describes_iff.2 hr⟩

/-- Nothing but the words counts. -/
theorem parse_of_words {other : String} (same : words source.toList = words other.toList) :
    parse source = parse other := by
  rw [parse, parse, readWords, readWords, same]

/-! ## The law -/

/-- The answer to a source is made of the answers to two parts, the second of which begins so many
lines below the first. -/
structure AnsweredByParts (whole s t : String) (count : Nat) : Prop where
  /-- An invalid literal of the first part is that of the whole. -/
  first : ∀ line token, parse s = .error (.invalidLiteral line token) →
    parse whole = .error (.invalidLiteral line token)
  /-- An invalid literal of the second part is found on a line that is further down. -/
  second : ¬Invalid s → ∀ line token, parse t = .error (.invalidLiteral line token) →
    parse whole = .error (.invalidLiteral (line + count) token)
  /-- If there is none, the bytes come one behind the other and are measured together. -/
  bytes : ¬Invalid s → ¬Invalid t → ∃ p q,
    Describes s p ∧ Describes t q ∧ Describes whole (p ++ q) ∧
      parse s = measured p ∧ parse t = measured q ∧ parse whole = measured (p ++ q)

theorem answeredByParts_newline (s t : String) :
    AnsweredByParts (s ++ "\n" ++ t) s t (s.toList.count '\n' + 1) := by
  have whole : (s ++ "\n" ++ t).toList = s.toList ++ '\n' :: t.toList := by simp
  have read := readWords_append_newline s.toList t.toList
  rw [← whole] at read
  refine ⟨?_, ?_, ?_⟩
  · intro line token bad
    rw [parse_eq_invalidLiteral_iff] at bad ⊢
    simp only [read, bad]
  · intro valid line token bad
    obtain ⟨p, hp⟩ := exists_describes valid
    rw [parse_eq_invalidLiteral_iff] at bad ⊢
    simp only [read, describes_iff.1 hp, bad]
    rfl
  · intro valid valid'
    obtain ⟨p, hp⟩ := exists_describes valid
    obtain ⟨q, hq⟩ := exists_describes valid'
    have hpq : Describes (s ++ "\n" ++ t) (p ++ q) := by
      rw [describes_iff, read, describes_iff.1 hp, describes_iff.1 hq]
    exact ⟨p, q, hp, hq, hpq, parse_of_describes hp, parse_of_describes hq, parse_of_describes hpq⟩

/-- Sources are answered part by part. Wherever there is a line end in a source, the answer to the
whole is made of the answers to the part before it and the part behind it. So a line end behind the
last line does not matter, and neither does a carriage return, be it the last character of the
source or stand before a line end. -/
theorem answer_is_made_of_parts (s t : String) :
    AnsweredByParts (s ++ "\n" ++ t) s t (s.toList.count '\n' + 1) ∧
      parse (s ++ "\n") = parse s ∧ parse (s ++ "\r") = parse s ∧
      parse (s ++ "\r\n" ++ t) = parse (s ++ "\n" ++ t) := by
  have returned : words (s.toList ++ ['\r']) = words s.toList := words_append_return s.toList
  refine ⟨answeredByParts_newline s t, parse_of_words ?_, parse_of_words ?_, parse_of_words ?_⟩
  · have nothing : words [] = [] := rfl
    simpa [nothing] using words_append_newline s.toList []
  · simpa using returned
  · have cut (text : List Char) := words_append_newline text t.toList
    have further : (s.toList ++ ['\r']).count '\n' = s.toList.count '\n' := by simp
    have behind := cut (s.toList ++ ['\r'])
    rw [returned, further, ← cut s.toList] at behind
    simpa using behind

/-- The second part has nothing on its first line, and the joint is a carriage return and a line
end. -/
example : parse ("1 # one\r" ++ "\n" ++ "\n+10 2\n2") = .error (.invalidLiteral 4 "2") := by
  decide +kernel

end Source

end ByteMachine
