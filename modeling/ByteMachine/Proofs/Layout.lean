import ByteMachine.Proofs.Lines
import ByteMachine.Proofs.Tokens

/-!
# Layouts

The same bytes can be written in many ways. A layout is one of them: bytes on lines of their own,
with blanks and leading zeros, more words and comments, and lines without a byte between them, each
line ended in one way or the other. However a source is laid out, it is read as its bytes
(`Source.layout_is_read_back`).
-/
namespace ByteMachine.Source

open Text (isBlank)

/-! ## Lines and their tokens -/

/-- A word between blanks is the token, whatever follows it behind a blank or a `#`. -/
theorem bears_word {indent token rest : List Char} (blank : ∀ c ∈ indent, isBlank c = true)
    (nonempty : token ≠ []) (solid : ∀ c ∈ token, isBlank c = false ∧ c ≠ '#')
    (ends : ∀ c ∈ rest.head?, isBlank c = true ∨ c = '#') :
    Bears (indent ++ (token ++ rest)) (some token) := by
  obtain ⟨front, comment, rfl, inside, start⟩ := exists_cut (· != '#') rest
  have notHash : ∀ c, isBlank c = true → c ≠ '#' := by
    rintro c hc rfl
    exact absurd hc (by decide)
  refine ⟨indent ++ (token ++ front), ⟨?_, comment, ?_, ?_⟩, .word blank nonempty ?_ ?_⟩
  · simp only [List.mem_append, not_or]
    refine ⟨fun h => notHash _ (blank _ h) rfl, fun h => (solid _ h).2 rfl, ?_⟩
    intro h
    simpa using inside _ h
  · simp only [List.append_assoc]
  · intro c hc
    simpa using start c hc
  · intro c hc
    exact (solid c hc).1
  · intro c hc
    have first := ends c (by
      cases front with
      | nil => simp at hc
      | cons d ds => exact hc)
    refine first.resolve_right ?_
    simpa using inside c (List.mem_of_mem_head? hc)

/-- A blank line has no token, nor has its comment. -/
theorem bears_none {indent comment : List Char} (blank : ∀ c ∈ indent, isBlank c = true)
    (ends : ∀ c ∈ comment.head?, c = '#') : Bears (indent ++ comment) none := by
  refine ⟨indent, ⟨?_, comment, rfl, ends⟩, .none blank⟩
  intro mem
  exact absurd (blank '#' mem) (by decide)

/-! ## Ways to write a line -/

/-- Blanks within a line. -/
structure Gap where
  chars : List Char
  blank : chars.all isBlank = true
  inline : '\n' ∉ chars

/-- No blanks at all. -/
def Gap.empty : Gap := ⟨[], rfl, List.not_mem_nil⟩

/-- Any text within a line. -/
structure Remark where
  chars : List Char
  inline : '\n' ∉ chars

/-- What may follow the numeral of a byte on its line. -/
inductive Trailer where
  | nothing
  /-- A blank, and any text behind it. -/
  | text (separator : Char) (blank : isBlank separator = true) (inline : separator ≠ '\n')
      (rest : Remark)
  | comment (rest : Remark)

/-- A line of a layout. -/
inductive Line where
  /-- A byte, in binary, perhaps with a plus sign and with zeros in front. -/
  | byte (indent : Gap) (plus : Bool) (zeros : Nat) (value : UInt8) (trailer : Trailer)
  /-- No byte, but perhaps a comment. -/
  | blank (indent : Gap) (comment : Option Remark)

/-- How a line ends. -/
inductive LineEnd where
  | lf | crlf

def Trailer.chars : Trailer → List Char
  | nothing => []
  | text separator _ _ rest => separator :: rest.chars
  | comment rest => '#' :: rest.chars

/-- The digits of a byte, with zeros in front. -/
def digitsOf (zeros : Nat) (value : UInt8) : List Char :=
  List.replicate zeros '0' ++ Numeral.digits 2 value.toNat

/-- The numeral of a byte. -/
def numeral (plus : Bool) (zeros : Nat) (value : UInt8) : List Char :=
  if plus then '+' :: digitsOf zeros value else digitsOf zeros value

namespace Line

/-- The line without its end. -/
def chars : Line → List Char
  | byte indent plus zeros value trailer =>
    indent.chars ++ (numeral plus zeros value ++ trailer.chars)
  | blank indent comment =>
    indent.chars ++ (match comment with
      | some rest => '#' :: rest.chars
      | none => [])

/-- The byte on the line, if there is one. -/
def byte? : Line → Option UInt8
  | byte _ _ _ value _ => some value
  | blank _ _ => none

/-- The token of the line, if it has one. -/
def token? : Line → Option (List Char)
  | byte _ plus zeros value _ => some (numeral plus zeros value)
  | blank _ _ => none

end Line

theorem isBinary_digitsOf (zeros : Nat) (value : UInt8) :
    digitsOf zeros value ≠ [] ∧ (∀ c ∈ digitsOf zeros value, c = '0' ∨ c = '1') ∧
      binaryValue (digitsOf zeros value) = value.toNat := by
  have nonempty : digitsOf zeros value ≠ [] := by
    simp [digitsOf, Numeral.digits_ne_nil]
  refine makeUp_two_iff.1 ((Numeral.value?_eq_some_iff (by decide)).1 ?_)
  rw [Numeral.value?_of_ne_nil nonempty, digitsOf, Numeral.valueFrom?_replicate_zero (by decide),
    Numeral.valueFrom?_digits (by decide) (by decide)]

theorem denotes_numeral (plus : Bool) (zeros : Nat) (value : UInt8) :
    Denotes (numeral plus zeros value) value := by
  obtain ⟨nonempty, digits, number⟩ := isBinary_digitsOf zeros value
  refine ⟨digitsOf zeros value, ?_, nonempty, digits, number⟩
  cases plus with
  | true => exact .inr rfl
  | false => exact .inl rfl

theorem solid_of_denotes {token : List Char} {b : UInt8} (h : Denotes token b) :
    token ≠ [] ∧ ∀ c ∈ token, isBlank c = false ∧ c ≠ '#' := by
  obtain ⟨digits, rfl | rfl, nonempty, binary, -⟩ := h
  · refine ⟨nonempty, ?_⟩
    intro c hc
    rcases binary c hc with rfl | rfl <;> decide
  · refine ⟨List.cons_ne_nil _ _, ?_⟩
    intro c hc
    rcases List.mem_cons.1 hc with rfl | hc
    · decide
    · rcases binary c hc with rfl | rfl <;> decide

theorem Line.bears (l : Line) : Bears l.chars l.token? := by
  cases l with
  | byte indent plus zeros value trailer =>
    obtain ⟨nonempty, solid⟩ := solid_of_denotes (denotes_numeral plus zeros value)
    refine bears_word (List.all_eq_true.1 indent.blank) nonempty solid ?_
    intro c hc
    cases trailer with
    | nothing => simp [Trailer.chars] at hc
    | text separator blank =>
      obtain rfl : separator = c := by simpa [Trailer.chars] using hc
      exact .inl blank
    | comment rest =>
      obtain rfl : '#' = c := by simpa [Trailer.chars] using hc
      exact .inr rfl
  | blank indent comment =>
    refine bears_none (List.all_eq_true.1 indent.blank) ?_
    intro c hc
    cases comment with
    | none => simp at hc
    | some rest => simpa [eq_comm] using hc

/-- A line is one line. -/
theorem Line.inline (l : Line) : '\n' ∉ l.chars := by
  cases l with
  | byte indent plus zeros value trailer =>
    obtain ⟨-, solid⟩ := solid_of_denotes (denotes_numeral plus zeros value)
    simp only [Line.chars, List.mem_append, not_or]
    refine ⟨indent.inline, fun h => absurd (solid _ h).1 (by decide), ?_⟩
    cases trailer with
    | nothing => simp [Trailer.chars]
    | text separator _ inline rest => simp [Trailer.chars, inline.symm, rest.inline]
    | comment rest => simp [Trailer.chars, rest.inline]
  | blank indent comment =>
    simp only [Line.chars, List.mem_append, not_or]
    refine ⟨indent.inline, ?_⟩
    cases comment with
    | none => simp
    | some rest => simp [rest.inline]

/-! ## Layouts -/

/-- Lines with their ends, and perhaps one more line that has no end. -/
structure Layout where
  ended : List (Line × LineEnd)
  last : Option Line

namespace Layout

/-- The lines in order. -/
def allLines (l : Layout) : List Line := l.ended.map Prod.fst ++ l.last.toList

/-- The bytes that are laid out. -/
def bytes (l : Layout) : List UInt8 := l.allLines.filterMap Line.byte?

/-- What is written of a line in front of the line feed. -/
def piece (entry : Line × LineEnd) : List Char :=
  match entry.2 with
  | .lf => entry.1.chars
  | .crlf => entry.1.chars ++ ['\r']

/-- What is written behind the last line feed. -/
def lastPiece : Option Line → List Char
  | some line => line.chars
  | none => []

/-- The text of the layout. -/
def chars (l : Layout) : List Char :=
  l.ended.flatMap (fun entry => piece entry ++ ['\n']) ++ lastPiece l.last

/-- What the lines bear, and what is behind the last line feed. -/
def tokens (l : Layout) : List (Option (List Char)) :=
  l.ended.map (fun entry => entry.1.token?) ++ [l.last.bind Line.token?]

theorem newline_notMem_piece (entry : Line × LineEnd) : '\n' ∉ piece entry := by
  obtain ⟨line, ending⟩ := entry
  cases ending with
  | lf => exact line.inline
  | crlf => simp [piece, line.inline]

theorem newline_notMem_lastPiece (last : Option Line) : '\n' ∉ lastPiece last := by
  cases last with
  | none => simp [lastPiece]
  | some line => exact line.inline

/-- The pieces between the line feeds are those that were written. -/
theorem splitOn_chars (l : Layout) :
    l.chars.splitOn '\n' = l.ended.map piece ++ [lastPiece l.last] := by
  have joined : l.chars = joinLines (l.ended.map piece) ++ lastPiece l.last := by
    rw [chars, joinLines, List.flatMap_map]
  rw [joined, splitOn_joinLines_append ?_ (newline_notMem_lastPiece l.last)]
  intro cs hcs
  obtain ⟨entry, -, rfl⟩ := List.mem_map.1 hcs
  exact newline_notMem_piece entry

theorem bears_piece (entry : Line × LineEnd) : Bears (piece entry) entry.1.token? := by
  obtain ⟨line, ending⟩ := entry
  cases ending with
  | lf => exact line.bears
  | crlf => exact line.bears.blank_behind (by decide)

theorem bears_lastPiece (last : Option Line) : Bears (lastPiece last) (last.bind Line.token?) := by
  cases last with
  | none =>
    have nothing : Bears ([] ++ []) none := bears_none (by simp) (by simp)
    exact nothing
  | some line => exact line.bears

/-- The pieces bear the tokens of their lines. -/
theorem bears_tokens (l : Layout) : List.Forall₂ Bears (l.chars.splitOn '\n') l.tokens := by
  rw [splitOn_chars, tokens]
  refine List.rel_append ?_ (.cons (bears_lastPiece l.last) .nil)
  rw [List.forall₂_map_left_iff, List.forall₂_map_right_iff, List.forall₂_same]
  intro entry _
  exact bears_piece entry

/-- The tokens denote the bytes. -/
theorem denotes_bytes (ls : List Line) :
    List.Forall₂ Denotes (ls.map Line.token?).reduceOption (ls.filterMap Line.byte?) := by
  induction ls with
  | nil => exact .nil
  | cons line ls ih =>
    cases line with
    | byte indent plus zeros value trailer => exact .cons (denotes_numeral plus zeros value) ih
    | blank indent comment => exact ih

theorem reduceOption_tokens (l : Layout) :
    l.tokens.reduceOption = (l.allLines.map Line.token?).reduceOption := by
  obtain ⟨ended, last⟩ := l
  cases last with
  | none => simp [tokens, allLines, List.reduceOption]
  | some line => simp [tokens, allLines, Function.comp_def]

theorem readWords_chars (l : Layout) : readWords l.chars = .ok l.bytes := by
  have h := mapM_readWord_of_bears l.bears_tokens 1
  rw [readWords, words, h, readTokens_eq_ok_iff, reduceOption_tokens]
  exact denotes_bytes l.allLines

theorem parse_chars (l : Layout) (fits : l.bytes.length ≤ Memory.size) :
    parse (String.ofList l.chars) = .ok l.bytes := by
  rw [parse_eq_ok_iff, String.toList_ofList]
  exact ⟨l.readWords_chars, fits⟩

end Layout

/-- However bytes are laid out, they are read back, as long as memory has room for them. -/
theorem layout_is_read_back (image : List UInt8) (fits : image.length ≤ 256) (l : Layout)
    (h : l.bytes = image) : parse (String.ofList l.chars) = .ok image := by
  subst h
  exact l.parse_chars fits

/-- Two bytes, with a plus sign, with more than eight digits, and with all that may stand between
and behind them. -/
def fiveThree : Layout where
  ended := [
    (.blank .empty (some ⟨[' ', '2', ' ', '#'], by decide⟩), .crlf),
    (.byte ⟨['\t'], by decide, by decide⟩ true 6 5
      (.text ' ' (by decide) (by decide) ⟨['1', '#', 'x'], by decide⟩), .crlf),
    (.blank ⟨['\u3000', '\r'], by decide, by decide⟩ none, .lf)]
  last := some (.byte .empty false 0 3 (.comment ⟨['1'], by decide⟩))

theorem fiveThree_is_read_back :
    fiveThree.bytes = [5, 3] ∧ [5, 3].length ≤ 256 ∧
      parse "# 2 #\r\n\t+000000101 1#x\r\n\u3000\r\n11#1" = .ok [5, 3] := by
  have text : String.ofList fiveThree.chars =
      "# 2 #\r\n\t+000000101 1#x\r\n\u3000\r\n11#1" := by decide +kernel
  refine ⟨rfl, by decide, ?_⟩
  rw [← text]
  exact layout_is_read_back [5, 3] (by decide) fiveThree rfl

end ByteMachine.Source
