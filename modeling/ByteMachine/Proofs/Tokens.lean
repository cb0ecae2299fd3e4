import Mathlib.Data.List.Forall2
import Mathlib.Data.List.ReduceOption
import Mathlib.Data.List.TakeWhile
import Mathlib.Data.Nat.Digits.Lemmas
import ByteMachine.Program.Source
import ByteMachine.Proofs.Numerals

/-!
# Tokens

What a source says is told by the tokens of its lines: on each line the first word before the
comment, if there is one (`Source.Bears`). A token is good if it is a binary numeral of a byte, with
any number of zeros in front and at most one plus sign (`Source.Denotes`). A source whose tokens are
all good is the list of their bytes, unless these are too many for memory; otherwise the first token
that is not good is reported, with the number of its line (`Source.answer_is_told_by_tokens`). What
else stands on the lines does not matter.
-/
namespace ByteMachine

/-! ## Texts cut in two -/

section Cut

variable {p : Char → Bool}

/-- A text can be cut in front of the first character that lacks a property. -/
theorem exists_cut (p : Char → Bool) (text : List Char) :
    ∃ front back, text = front ++ back ∧ (∀ c ∈ front, p c = true) ∧
      ∀ c ∈ back.head?, p c = false := by
  refine ⟨text.takeWhile p, text.dropWhile p, List.takeWhile_append_dropWhile.symm, ?_, ?_⟩
  · exact List.all_eq_true.1 List.all_takeWhile
  · intro c hc
    have first := List.head?_dropWhile_not p text
    rwa [hc] at first

/-- There is one such place only, and a text is cut there by going along. -/
theorem while_of_cut {front back : List Char} (inside : ∀ c ∈ front, p c = true)
    (ends : ∀ c ∈ back.head?, p c = false) :
    (front ++ back).takeWhile p = front ∧ (front ++ back).dropWhile p = back := by
  rw [List.takeWhile_append_of_pos inside, List.dropWhile_append_of_pos inside]
  cases back with
  | nil => simp
  | cons c cs =>
    have hc : ¬p c = true := by simp [ends c rfl]
    rw [List.takeWhile_cons_of_neg hc, List.dropWhile_cons_of_neg hc, List.append_nil]
    exact ⟨rfl, rfl⟩

end Cut

namespace Source

open Text (isBlank firstWord)

/-! ## Lines -/

/-- A piece of text before a line feed, without the carriage return that belongs to the line end. -/
def withoutReturn (piece : List Char) : List Char :=
  if piece.getLast? = some '\r' then piece.dropLast else piece

/-- The lines of a text. A line ends with a line feed or with a carriage return and a line feed; the
last one may have no end, but it is no line if there is nothing on it. -/
def lines (text : List Char) : List (List Char) :=
  let pieces := text.splitOn '\n'
  pieces.dropLast.map withoutReturn ++ pieces.getLast?.toList.filter (!·.isEmpty)

/-! ## The token of a line -/

/-- The code of a line is what stands before its first `#`. -/
def CodeOf (line code : List Char) : Prop :=
  '#' ∉ code ∧ ∃ comment, line = code ++ comment ∧ ∀ c ∈ comment.head?, c = '#'

/-- The first word of a text, which has none if it is blank. -/
inductive FirstWord : List Char → Option (List Char) → Prop
  | word {indent token rest : List Char} (blank : ∀ c ∈ indent, isBlank c = true)
      (nonempty : token ≠ []) (solid : ∀ c ∈ token, isBlank c = false)
      (ends : ∀ c ∈ rest.head?, isBlank c = true) :
      FirstWord (indent ++ (token ++ rest)) (some token)
  | none {text : List Char} (blank : ∀ c ∈ text, isBlank c = true) : FirstWord text none

/-- The token of a line: the first word of its code, if it has one. -/
def Bears (line : List Char) (token : Option (List Char)) : Prop :=
  ∃ code, CodeOf line code ∧ FirstWord code token

theorem CodeOf.takeWhile_eq {line code : List Char} (h : CodeOf line code) :
    line.takeWhile (· != '#') = code := by
  obtain ⟨clean, comment, rfl, ends⟩ := h
  refine (while_of_cut ?_ ?_).1
  · intro c hc
    have other : c ≠ '#' := fun e => clean (e ▸ hc)
    simpa using other
  · intro c hc
    simp [ends c hc]

theorem exists_codeOf (line : List Char) : ∃ code, CodeOf line code := by
  obtain ⟨code, comment, whole, inside, ends⟩ := exists_cut (· != '#') line
  refine ⟨code, ?_, comment, whole, ?_⟩
  · intro mem
    simpa using inside '#' mem
  · intro c hc
    simpa using ends c hc

theorem FirstWord.firstWord_eq {text : List Char} {token : Option (List Char)}
    (h : FirstWord text token) : firstWord text = token.getD [] := by
  cases h with
  | @word indent token rest blank nonempty solid ends =>
    have start : ∀ c ∈ (token ++ rest).head?, isBlank c = false := by
      intro c hc
      rw [List.head?_append_of_ne_nil _ nonempty] at hc
      exact solid c (List.mem_of_mem_head? hc)
    have inside : ∀ c ∈ token, (!isBlank c) = true := by
      intro c hc
      simp [solid c hc]
    have stop : ∀ c ∈ rest.head?, (!isBlank c) = false := by
      intro c hc
      simp [ends c hc]
    rw [firstWord, (while_of_cut blank start).2, (while_of_cut inside stop).1, Option.getD_some]
  | none blank =>
    rw [firstWord, List.dropWhile_eq_nil_iff.2 blank, List.takeWhile_nil, Option.getD_none]

theorem exists_firstWord (text : List Char) : ∃ token, FirstWord text token := by
  obtain ⟨indent, rest, rfl, blank, start⟩ := exists_cut isBlank text
  obtain ⟨token, rest, rfl, solid, ends⟩ := exists_cut (!isBlank ·) rest
  cases token with
  | nil =>
    -- What follows the blanks is neither blank nor not, so there is nothing.
    have nothing : rest = [] := by
      cases rest with
      | nil => rfl
      | cons c cs =>
        have blank := start c rfl
        simpa [blank] using ends c rfl
    subst nothing
    exact ⟨none, .none (by simpa using blank)⟩
  | cons c cs =>
    refine ⟨some (c :: cs), .word blank (List.cons_ne_nil c cs) ?_ ?_⟩
    · intro d hd
      simpa using solid d hd
    · intro d hd
      simpa using ends d hd

theorem FirstWord.ne_nil {text token : List Char} (h : FirstWord text (some token)) :
    token ≠ [] := by
  cases h with
  | word _ nonempty => exact nonempty

theorem FirstWord.blank_behind {text : List Char} {token : Option (List Char)}
    (h : FirstWord text token) {c : Char} (hc : isBlank c = true) :
    FirstWord (text ++ [c]) token := by
  cases h with
  | @word indent token rest blank nonempty solid ends =>
    rw [List.append_assoc, List.append_assoc]
    refine .word blank nonempty solid ?_
    intro d hd
    cases rest with
    | nil => simpa [← Option.mem_some.1 hd] using hc
    | cons e es => exact ends d hd
  | none blank =>
    refine .none ?_
    intro d hd
    rcases List.mem_append.1 hd with inside | last
    · exact blank d inside
    · rwa [List.mem_singleton.1 last]

/-- A blank at the end of a line is in its comment or between words. -/
theorem Bears.blank_behind {line : List Char} {token : Option (List Char)} (h : Bears line token)
    {c : Char} (hc : isBlank c = true) : Bears (line ++ [c]) token := by
  obtain ⟨code, ⟨clean, comment, rfl, ends⟩, first⟩ := h
  cases comment with
  | nil =>
    have other : '#' ≠ c := by
      rintro rfl
      exact absurd hc (by decide)
    refine ⟨code ++ [c], ⟨by simp [clean, other], [], by simp, by simp⟩, first.blank_behind hc⟩
  | cons d ds => exact ⟨code, ⟨clean, d :: (ds ++ [c]), by simp, ends⟩, first⟩

theorem exists_bears (line : List Char) : ∃ token, Bears line token := by
  obtain ⟨code, hc⟩ := exists_codeOf line
  obtain ⟨token, ht⟩ := exists_firstWord code
  exact ⟨token, code, hc, ht⟩

/-- Every line bears a token or none. -/
theorem exists_tokens (ls : List (List Char)) : ∃ tokens, List.Forall₂ Bears ls tokens := by
  choose token bears using exists_bears
  refine ⟨ls.map token, ?_⟩
  rw [List.forall₂_map_right_iff, List.forall₂_same]
  intro line _
  exact bears line

theorem Bears.word_eq {line : List Char} {token : Option (List Char)} (h : Bears line token) :
    word line = token.getD [] := by
  obtain ⟨code, hc, first⟩ := h
  rw [word, hc.takeWhile_eq, first.firstWord_eq]

theorem Bears.isEmpty_eq {line : List Char} {token : Option (List Char)} (h : Bears line token) :
    (word line).isEmpty = token.isNone := by
  rw [h.word_eq]
  obtain ⟨code, -, first⟩ := h
  cases token with
  | none => rfl
  | some token => simpa using first.ne_nil

theorem word_withoutReturn (piece : List Char) : word (withoutReturn piece) = word piece := by
  rw [withoutReturn]
  split
  case isTrue h =>
    obtain ⟨line, rfl⟩ := List.getLast?_eq_some_iff.1 h
    obtain ⟨token, bears⟩ := exists_bears line
    have behind := bears.blank_behind (c := '\r') (by decide)
    rw [List.dropLast_concat, bears.word_eq, behind.word_eq]
  case isFalse => rfl

/-- The words of a text are those of its lines. -/
theorem words_eq (text : List Char) :
    words text = (((lines text).map word).zipIdx 1).filter (!·.1.isEmpty) := by
  obtain ⟨pieces, last, split⟩ : ∃ pieces last, text.splitOn '\n' = pieces ++ [last] :=
    List.eq_nil_or_concat' _ |>.resolve_left (List.splitOn_ne_nil _ _)
  have same : pieces.map (word ∘ withoutReturn) = pieces.map word := by
    refine List.map_congr_left ?_
    intro piece _
    exact word_withoutReturn piece
  rw [words, lines, split, List.dropLast_concat, List.getLast?_concat, Option.toList_some,
    List.map_append, List.map_append, List.map_map, same, List.zipIdx_append, List.zipIdx_append,
    List.filter_append, List.filter_append]
  -- The last piece has no word if it is no line.
  cases last with
  | nil => rfl
  | cons c cs => rfl

/-! ## Good tokens -/

/-- The value of binary digits, the highest one first. -/
def binaryValue (digits : List Char) : Nat :=
  Nat.ofDigits 2 (digits.reverse.map fun c => if c = '1' then 1 else 0)

/-- A binary numeral of a number: at least one digit, behind one plus sign or none. -/
def IsBinary (token : List Char) (n : Nat) : Prop :=
  ∃ digits : List Char, (token = digits ∨ token = '+' :: digits) ∧ digits ≠ [] ∧
    (∀ c ∈ digits, c = '0' ∨ c = '1') ∧ binaryValue digits = n

/-- A good token is a binary numeral of a number that a byte can have. -/
def Good (token : List Char) : Prop := ∃ n, IsBinary token n ∧ n ≤ 255

/-- A good token denotes the byte of its number. -/
def Denotes (token : List Char) (b : UInt8) : Prop := IsBinary token b.toNat

theorem good_iff_denotes {token : List Char} : Good token ↔ ∃ b, Denotes token b := by
  constructor
  · rintro ⟨n, binary, small⟩
    refine ⟨UInt8.ofNat n, ?_⟩
    rwa [Denotes, UInt8.toNat_ofNat_of_lt' (Nat.lt_succ_of_le small)]
  · rintro ⟨b, denotes⟩
    exact ⟨b.toNat, denotes, Nat.le_of_lt_succ b.toNat_lt⟩

theorem digit?_two_eq_some_iff {c : Char} {d : Nat} :
    Numeral.digit? 2 c = some d ↔ (c = '0' ∨ c = '1') ∧ d = if c = '1' then 1 else 0 := by
  by_cases zero : c = '0'
  · subst zero
    simp [Numeral.digit?, eq_comm]
  by_cases one : c = '1'
  · subst one
    simp [Numeral.digit?, eq_comm]
  -- Behind the two come digits with higher values, and letters begin with ten.
  have notZero : c.toNat ≠ '0'.toNat := fun e => zero (Char.toNat_inj.1 e)
  have notOne : c.toNat ≠ '1'.toNat := fun e => one (Char.toNat_inj.1 e)
  have none : Numeral.digit? 2 c = none := by
    refine if_neg ?_
    split_ifs with digit
    · have range := Char.isDigit_iff_toNat.1 digit
      simp only [Char.reduceToNat] at notZero notOne range ⊢
      omega
    all_goals omega
  simp [none, zero, one]

theorem isDigit_two_iff {c : Char} {d : Nat} :
    Numeral.IsDigit 2 c d ↔ (c = '0' ∨ c = '1') ∧ d = if c = '1' then 1 else 0 :=
  (Numeral.digit?_eq_some_iff (by decide)).symm.trans digit?_two_eq_some_iff

theorem forall₂_isDigit_two_iff {cs : List Char} {values : List Nat} :
    List.Forall₂ (Numeral.IsDigit 2) cs values ↔
      (∀ c ∈ cs, c = '0' ∨ c = '1') ∧ values = cs.map fun c => if c = '1' then 1 else 0 := by
  induction cs generalizing values with
  | nil => simp
  | cons c cs ih =>
    simp only [List.forall₂_cons_left_iff, isDigit_two_iff, ih, List.forall_mem_cons, List.map_cons]
    constructor
    · rintro ⟨d, rest, ⟨digit, rfl⟩, ⟨digits, rfl⟩, rfl⟩
      exact ⟨⟨digit, digits⟩, rfl⟩
    · rintro ⟨⟨digit, digits⟩, rfl⟩
      exact ⟨_, _, ⟨digit, rfl⟩, ⟨digits, rfl⟩, rfl⟩

theorem makeUp_two_iff {cs : List Char} {n : Nat} :
    Numeral.MakeUp 2 cs n ↔
      cs ≠ [] ∧ (∀ c ∈ cs, c = '0' ∨ c = '1') ∧ binaryValue cs = n := by
  simp only [Numeral.MakeUp, forall₂_isDigit_two_iff, binaryValue, List.map_reverse]
  refine and_congr_right fun _ => ?_
  constructor
  · rintro ⟨values, ⟨digits, rfl⟩, value⟩
    exact ⟨digits, value⟩
  · rintro ⟨digits, value⟩
    exact ⟨_, ⟨digits, rfl⟩, value⟩

/-- A numeral is read as the number that it is a numeral of. -/
theorem read?_two_eq_some_iff {token : List Char} {n : Nat} :
    Numeral.read? 2 token = some n ↔ IsBinary token n := by
  rw [Numeral.read?_eq_some_iff (by decide), Numeral.IsNumeral, IsBinary]
  simp only [makeUp_two_iff]

theorem byte?_eq_some_iff {token : List Char} {b : UInt8} :
    byte? token = some b ↔ Denotes token b := by
  rw [Denotes, ← read?_two_eq_some_iff, byte?]
  rcases Numeral.read? 2 token with _ | n
  · simp
  · by_cases small : n < 256
    · have back : (UInt8.ofNat n).toNat = n := UInt8.toNat_ofNat_of_lt' small
      simp only [small, if_true, Option.some.injEq]
      rw [← UInt8.toNat_inj, back]
    · have large : n ≠ b.toNat := by
        have := b.toNat_lt
        omega
      simp [small, large]

theorem byte?_eq_none_iff {token : List Char} : byte? token = none ↔ ¬Good token := by
  rw [good_iff_denotes, Option.eq_none_iff_forall_ne_some, not_exists]
  simp only [ne_eq, byte?_eq_some_iff]

/-! ## Reading tokens -/

/-- The bytes of the tokens of some lines, the first of which has the given number. -/
def readTokens : Nat → List (Option (List Char)) → Except SourceError (List UInt8)
  | _, [] => .ok []
  | n, none :: tokens => readTokens (n + 1) tokens
  | n, some token :: tokens =>
    match byte? token with
    | some b => (readTokens (n + 1) tokens).map (b :: ·)
    | none => .error (.invalidLiteral n (String.ofList token))

/-- The first bad token, with the number of its line. -/
def FirstBad (n : Nat) (tokens : List (Option (List Char))) (line : Nat) (token : String) : Prop :=
  ∃ i bad, tokens[i]? = some (some bad) ∧ ¬Good bad ∧ line = n + i ∧ token = String.ofList bad ∧
    ∀ j < i, ∀ other, tokens[j]? = some (some other) → Good other

theorem readTokens_of_good {n : Nat} {token : List Char} {b : UInt8} (h : byte? token = some b)
    (tokens : List (Option (List Char))) :
    readTokens n (some token :: tokens) = (readTokens (n + 1) tokens).map (b :: ·) := by
  simp [readTokens, h]

theorem readTokens_of_bad {n : Nat} {token : List Char} (h : byte? token = none)
    (tokens : List (Option (List Char))) :
    readTokens n (some token :: tokens) = .error (.invalidLiteral n (String.ofList token)) := by
  simp [readTokens, h]

theorem readTokens_eq_ok_iff {n : Nat} {tokens : List (Option (List Char))} {image : List UInt8} :
    readTokens n tokens = .ok image ↔ List.Forall₂ Denotes tokens.reduceOption image := by
  induction tokens generalizing n image with
  | nil => simp [readTokens, eq_comm]
  | cons token tokens ih =>
    cases token with
    | none => rw [readTokens, List.reduceOption_cons_of_none, ih]
    | some token =>
      rw [List.reduceOption_cons_of_some, List.forall₂_cons_left_iff]
      simp only [← byte?_eq_some_iff]
      rcases hb : byte? token with _ | b
      · simp [readTokens_of_bad hb]
      · rw [readTokens_of_good hb]
        rcases hr : readTokens (n + 1) tokens with e | rest
        · simp [Except.map, ← ih (n := n + 1), hr]
        · simp [Except.map, ← ih (n := n + 1), hr, eq_comm]

theorem firstBad_cons_of_good {n line : Nat} {token : String} (head : Option (List Char))
    (h : ∀ t, head = some t → Good t) (tokens : List (Option (List Char))) :
    FirstBad n (head :: tokens) line token ↔ FirstBad (n + 1) tokens line token := by
  constructor
  · rintro ⟨i, bad, at_i, notGood, rfl, rfl, before⟩
    cases i with
    | zero => exact absurd (h bad (by simpa using at_i)) notGood
    | succ i =>
      refine ⟨i, bad, at_i, notGood, by omega, rfl, ?_⟩
      intro j hj other at_j
      exact before (j + 1) (by omega) other at_j
  · rintro ⟨i, bad, at_i, notGood, rfl, rfl, before⟩
    refine ⟨i + 1, bad, at_i, notGood, by omega, rfl, ?_⟩
    intro j hj other at_j
    cases j with
    | zero => exact h other (by simpa using at_j)
    | succ j => exact before j (by omega) other at_j

theorem firstBad_cons_of_bad {n line : Nat} {bad : List Char} {token : String} (h : ¬Good bad)
    (tokens : List (Option (List Char))) :
    FirstBad n (some bad :: tokens) line token ↔ line = n ∧ token = String.ofList bad := by
  constructor
  · rintro ⟨i, other, at_i, -, rfl, rfl, before⟩
    cases i with
    | zero =>
      obtain rfl : bad = other := by simpa using at_i
      exact ⟨rfl, rfl⟩
    | succ i => exact absurd (before 0 (by omega) bad rfl) h
  · rintro ⟨rfl, rfl⟩
    exact ⟨0, bad, rfl, h, rfl, rfl, by simp⟩

theorem readTokens_eq_error_iff {n : Nat} {tokens : List (Option (List Char))} {e : SourceError} :
    readTokens n tokens = .error e ↔
      ∃ line token, FirstBad n tokens line token ∧ e = .invalidLiteral line token := by
  induction tokens generalizing n with
  | nil => simp [readTokens, FirstBad]
  | cons head tokens ih =>
    cases head with
    | none => simp only [readTokens, ih, firstBad_cons_of_good none (by simp)]
    | some token =>
      rcases hb : byte? token with _ | b
      · simp [readTokens_of_bad hb, firstBad_cons_of_bad (byte?_eq_none_iff.1 hb), eq_comm]
      · have good : Good token := good_iff_denotes.2 ⟨b, byte?_eq_some_iff.1 hb⟩
        simp only [firstBad_cons_of_good (some token) (by simpa using good), ← ih,
          readTokens_of_good hb]
        rcases readTokens (n + 1) tokens with e' | rest <;> simp [Except.map]

/-- Reading goes by the tokens that the lines bear, and by nothing else. -/
theorem mapM_readWord_of_bears {ls : List (List Char)} {tokens : List (Option (List Char))}
    (h : List.Forall₂ Bears ls tokens) (n : Nat) :
    (((ls.map word).zipIdx n).filter (!·.1.isEmpty)).mapM readWord = readTokens n tokens := by
  induction h generalizing n with
  | nil => rfl
  | @cons line token ls tokens here rest ih =>
    rw [List.map_cons, List.zipIdx_cons, List.filter_cons]
    simp only [here.isEmpty_eq]
    cases token with
    | none => exact ih (n + 1)
    | some token =>
      have read : word line = token := here.word_eq
      simp only [Option.isNone_some, Bool.not_false, if_true, List.mapM_cons, ih (n + 1), read]
      rcases hb : byte? token with _ | b
      · simp [readTokens_of_bad hb, readWord, hb, bind, Except.bind]
      · rw [readTokens_of_good hb]
        rcases readTokens (n + 1) tokens with e | bytes <;>
          simp [readWord, hb, bind, Except.bind, pure, Except.pure, Except.map]

theorem readWords_eq_readTokens {text : List Char} {tokens : List (Option (List Char))}
    (h : List.Forall₂ Bears (lines text) tokens) : readWords text = readTokens 1 tokens := by
  rw [readWords, words_eq, mapM_readWord_of_bears h]

/-- Tokens have an image if all of them are good. -/
theorem exists_image_iff {tokens : List (List Char)} :
    (∃ image, List.Forall₂ Denotes tokens image) ↔ ∀ token ∈ tokens, Good token := by
  induction tokens with
  | nil => simp
  | cons token tokens ih =>
    rw [List.forall_mem_cons, ← ih, good_iff_denotes]
    constructor
    · rintro ⟨image, denotes⟩
      obtain ⟨b, rest, here, later, -⟩ := List.forall₂_cons_left_iff.1 denotes
      exact ⟨⟨b, here⟩, rest, later⟩
    · rintro ⟨⟨b, here⟩, rest, later⟩
      exact ⟨b :: rest, .cons here later⟩

/-! ## The law -/

section Law

variable {source : String} {tokens : List (Option (List Char))}

theorem parse_eq_ok_iff {image : List UInt8} :
    parse source = .ok image ↔
      readWords source.toList = .ok image ∧ image.length ≤ Memory.size := by
  rcases hr : readWords source.toList with e | bytes
  · simp [parse, hr]
  · by_cases fits : bytes.length ≤ Memory.size
    · simp only [parse, hr, if_pos fits, Except.ok.injEq]
      constructor
      · rintro rfl
        exact ⟨rfl, fits⟩
      · exact And.left
    · simp only [parse, hr, if_neg fits, reduceCtorEq, false_iff, Except.ok.injEq]
      rintro ⟨rfl, fits'⟩
      exact fits fits'

theorem parse_eq_invalidLiteral_iff {line : Nat} {token : String} :
    parse source = .error (.invalidLiteral line token) ↔
      readWords source.toList = .error (.invalidLiteral line token) := by
  rcases hr : readWords source.toList with e | bytes
  · simp [parse, hr]
  · by_cases fits : bytes.length ≤ Memory.size <;> simp [parse, hr, fits]

theorem parse_eq_tooLarge_iff (h : List.Forall₂ Bears (lines source.toList) tokens)
    {size capacity : Nat} :
    parse source = .error (.tooLarge size capacity) ↔
      ∃ image, readWords source.toList = .ok image ∧ size = image.length ∧ Memory.size < size ∧
        capacity = Memory.size := by
  rcases hr : readWords source.toList with e | bytes
  · have read := (readWords_eq_readTokens h).symm.trans hr
    obtain ⟨line, token, -, rfl⟩ := readTokens_eq_error_iff.1 read
    simp [parse, hr]
  · by_cases fits : bytes.length ≤ Memory.size
    · simp only [parse, hr, if_pos fits, reduceCtorEq, false_iff, Except.ok.injEq]
      rintro ⟨image, rfl, rfl, large, -⟩
      omega
    · simp only [parse, hr, if_neg fits, Except.error.injEq, SourceError.tooLarge.injEq,
        Except.ok.injEq]
      constructor
      · rintro ⟨rfl, rfl⟩
        exact ⟨bytes, rfl, rfl, Nat.lt_of_not_le fits, rfl⟩
      · rintro ⟨image, rfl, rfl, -, rfl⟩
        exact ⟨rfl, rfl⟩

end Law

/-- What becomes of a source is told by some tokens. -/
structure ToldBy (source : String) (tokens : List (Option (List Char))) : Prop where
  /-- A literal is found to be invalid if some token is bad. -/
  invalid : (∃ line token, parse source = .error (.invalidLiteral line token)) ↔
    ∃ token ∈ tokens.reduceOption, ¬Good token
  /-- It is the first bad token that is reported, unchanged and with its line. -/
  first : ∀ line token, parse source = .error (.invalidLiteral line token) ↔
    FirstBad 1 tokens line token
  /-- Only good tokens are counted. -/
  large : ∀ size capacity, parse source = .error (.tooLarge size capacity) ↔
    (∀ token ∈ tokens.reduceOption, Good token) ∧ size = tokens.reduceOption.length ∧ 256 < size ∧
      capacity = 256
  /-- Good tokens that fit stand for their bytes. -/
  good : ∀ image, parse source = .ok image ↔
    List.Forall₂ Denotes tokens.reduceOption image ∧ image.length ≤ 256
  /-- Another source whose lines bear the same tokens gets the same answer. -/
  same : ∀ other : String, List.Forall₂ Bears (lines other.toList) tokens →
    parse other = parse source

theorem toldBy_of_bears {source : String} {tokens : List (Option (List Char))}
    (h : List.Forall₂ Bears (lines source.toList) tokens) : ToldBy source tokens := by
  have read := readWords_eq_readTokens h
  have first (line : Nat) (token : String) :
      parse source = .error (.invalidLiteral line token) ↔ FirstBad 1 tokens line token := by
    rw [parse_eq_invalidLiteral_iff, read, readTokens_eq_error_iff]
    simp
  refine ⟨?_, first, ?_, ?_, ?_⟩
  · -- Tokens are read as an image or as the first bad one, and never as both.
    constructor
    · rintro ⟨line, token, reported⟩
      obtain ⟨i, bad, at_i, notGood, -⟩ := (first line token).1 reported
      exact ⟨bad, List.reduceOption_mem_iff.2 (List.mem_of_getElem? at_i), notGood⟩
    · rintro ⟨token, mem, notGood⟩
      rcases hr : readTokens 1 tokens with e | image
      · obtain ⟨line, bad, isFirst, rfl⟩ := readTokens_eq_error_iff.1 hr
        exact ⟨line, bad, (first line bad).2 isFirst⟩
      · exact absurd (exists_image_iff.1 ⟨image, readTokens_eq_ok_iff.1 hr⟩ token mem) notGood
  · intro size capacity
    rw [parse_eq_tooLarge_iff h, read, ← exists_image_iff]
    simp only [readTokens_eq_ok_iff]
    constructor
    · rintro ⟨image, denotes, rfl, large, rfl⟩
      exact ⟨⟨image, denotes⟩, denotes.length_eq.symm, large, rfl⟩
    · rintro ⟨⟨image, denotes⟩, rfl, large, rfl⟩
      exact ⟨image, denotes, denotes.length_eq, large, rfl⟩
  · intro image
    rw [parse_eq_ok_iff, read, readTokens_eq_ok_iff]
    rfl
  · intro other bears
    rw [parse, parse, read, readWords_eq_readTokens bears]

/-- What becomes of a source is told by the tokens of its lines. Every line bears a token or none.
If one of them is bad, the first such is reported with its line, however many good ones go before
it; if all are good, they stand for the image, or are counted if they are more than 256. So two
sources whose lines bear the same tokens get the same answer. -/
theorem answer_is_told_by_tokens (source : String) :
    (∃ tokens, List.Forall₂ Bears (lines source.toList) tokens) ∧
      ∀ tokens, List.Forall₂ Bears (lines source.toList) tokens → ToldBy source tokens := by
  exact ⟨exists_tokens _, fun tokens h => toldBy_of_bears h⟩

/-- Lines without a token are counted, and a bad token is not excused by what follows it. -/
example : parse "1 2\r\n# two\n\n +2# two\n3" = .error (.invalidLiteral 4 "+2") := by
  decide +kernel

end Source

end ByteMachine
