import Mathlib.Data.List.TakeWhile
import ByteMachine.Debugger.Arguments
import ByteMachine.Proofs.Tokens

/-!
# The grammar of lines

A line of the debugger is made of pieces: spaces and tabs, bare tokens, and quoted tokens. A bare
token goes on until a space, a tab or the end, and quotes and backslashes in it are ordinary; a
quoted token is made of items, each of which stands for one character. There is no more than one way
to take a line apart (`Begins.unique`). If it can be taken apart as a whole, the texts of its tokens
are the arguments, and if it cannot, a quote is in the way that does not close, and how the text
behind it ends tells which error there is (`splitArguments_keeps_to_grammar`).
-/
namespace ByteMachine.Debugger

/-- An item of a quoted token. -/
inductive Item where
  /-- A character that stands for itself. -/
  | plain (c : Char) (notQuote : c ≠ '"') (notBackslash : c ≠ '\\')
  /-- Any character behind a backslash. -/
  | escaped (c : Char)

namespace Item

/-- The item as it is written. -/
def source : Item → List Char
  | plain c _ _ => [c]
  | escaped c => ['\\', c]

/-- The character that the item stands for. -/
def char : Item → Char
  | plain c _ _ => c
  | escaped c => c

end Item

/-- Items one after the other as they are written. -/
def itemsSource (items : List Item) : List Char := items.flatMap Item.source

theorem itemsSource_cons (item : Item) (items : List Item) :
    itemsSource (item :: items) = item.source ++ itemsSource items :=
  List.flatMap_cons

/-- A piece of a line. -/
inductive Piece where
  /-- A space or a tab. -/
  | gap (c : Char) (blank : isGap c = true)
  /-- A bare token. Only its first character may not be a quote. -/
  | bare (first : Char) (rest : List Char) (starts : isGap first = false) (notQuote : first ≠ '"')
      (solid : ∀ c ∈ rest, isGap c = false)
  /-- A quoted token. -/
  | quoted (items : List Item)

namespace Piece

/-- The piece as it is written. -/
def source : Piece → List Char
  | gap c _ => [c]
  | bare first rest _ _ _ => first :: rest
  | quoted items => '"' :: itemsSource items ++ ['"']

/-- The text of the piece, if it is a token. -/
def text? : Piece → Option (List Char)
  | gap _ _ => none
  | bare first rest _ _ _ => some (first :: rest)
  | quoted items => some (items.map Item.char)

/-- Whether the piece is a bare token. -/
def isBare : Piece → Bool
  | bare .. => true
  | gap .. | quoted _ => false

end Piece

/-- The texts of the tokens among some pieces. -/
def textsOf (ps : List Piece) : List (List Char) := ps.filterMap Piece.text?

/-- The text has come to its end or goes on with a space or a tab. -/
def Stops (text : List Char) : Prop := ∀ c ∈ text.head?, isGap c = true

/-- The line is made of the pieces and of the rest behind them. A bare token is followed by a space,
a tab or the end of the line. -/
inductive Begins : List Char → List Piece → List Char → Prop
  | nil (rest : List Char) : Begins rest [] rest
  | cons {line rest : List Char} {ps : List Piece} (p : Piece)
      (stops : p.isBare = true → Stops line) (more : Begins line ps rest) :
      Begins (p.source ++ line) (p :: ps) rest

/-- The line is made of the pieces and nothing else. -/
def MadeOf (line : List Char) (ps : List Piece) : Prop := Begins line ps []

/-- The text behind an opening quote has no quote that closes it. -/
def Unclosed (text : List Char) : Prop :=
  ∀ items tail, text ≠ itemsSource items ++ '"' :: tail

/-- The text ends with a backslash behind complete items. -/
def Dangles (text : List Char) : Prop := ∃ items, text = itemsSource items ++ ['\\']

variable {words : List (List Char)} {line rest text : List Char} {ps qs : List Piece} {c : Char}

/-! ## Reading pieces -/

/-- What becomes of the rest of a line behind words that are finished. -/
def splitBehind (words : List (List Char)) (line : List Char) :
    Except SplitError (List (List Char)) :=
  (line.foldl Scan.feed ⟨words, .between⟩).finish

@[simp] theorem splitBehind_nil (words : List (List Char)) :
    splitBehind words [] = .ok words.reverse := rfl

/-- The scan as it is behind more finished words. -/
def Scan.behind (s : Scan) (words : List (List Char)) : Scan := ⟨s.words ++ words, s.position⟩

/-- Finished words have no say in how the next character is read. -/
theorem feed_behind (s : Scan) (words : List (List Char)) (c : Char) :
    (s.behind words).feed c = (s.feed c).behind words := by
  obtain ⟨finished, position⟩ := s
  cases position with
  | between | bare word | quoted word =>
    simp only [Scan.feed, Scan.behind]
    split_ifs <;> rfl
  | escaped word => rfl

theorem foldl_feed_behind (line : List Char) (s : Scan) (words : List (List Char)) :
    line.foldl Scan.feed (s.behind words) = (line.foldl Scan.feed s).behind words := by
  induction line generalizing s with
  | nil => rfl
  | cons c line ih => rw [List.foldl_cons, feed_behind, ih, List.foldl_cons]

theorem finish_behind (s : Scan) (words : List (List Char)) :
    (s.behind words).finish = s.finish.map (words.reverse ++ ·) := by
  obtain ⟨finished, position⟩ := s
  cases position <;> simp [Scan.finish, Scan.behind, Scan.close, Except.map]

/-- Behind finished words a line is split as it is by itself. -/
theorem splitBehind_eq (words : List (List Char)) (line : List Char) :
    splitBehind words line = (splitWords line).map (words.reverse ++ ·) := by
  rw [splitBehind, splitWords, ← finish_behind, ← foldl_feed_behind]
  rfl

theorem splitBehind_gap (h : isGap c = true) (words : List (List Char)) (line : List Char) :
    splitBehind words (c :: line) = splitBehind words line := by
  simp [splitBehind, Scan.feed, h]

theorem foldl_feed_solid {front : List Char} (h : ∀ c ∈ front, isGap c = false)
    (words : List (List Char)) (word : List Char) :
    front.foldl Scan.feed ⟨words, .bare word⟩ = ⟨words, .bare (front.reverse ++ word)⟩ := by
  induction front generalizing word with
  | nil => rfl
  | cons c front ih =>
    rw [List.forall_mem_cons] at h
    simp [Scan.feed, Scan.moveTo, h.1, ih h.2]

/-- A bare token is finished by what it stops at. -/
theorem splitBehind_bare {first : Char} {front : List Char} (starts : isGap first = false)
    (notQuote : first ≠ '"') (solid : ∀ c ∈ front, isGap c = false) (stops : Stops line)
    (words : List (List Char)) :
    splitBehind words (first :: front ++ line) = splitBehind ((first :: front) :: words) line := by
  have read : (first :: front).foldl Scan.feed ⟨words, .between⟩ =
      ⟨words, .bare (front.reverse ++ [first])⟩ := by
    simp [Scan.feed, Scan.moveTo, starts, notQuote, foldl_feed_solid solid]
  rw [splitBehind, List.foldl_append, read]
  cases line with
  | nil => simp [Scan.finish, Scan.close]
  | cons c line =>
    have blank : isGap c = true := stops c rfl
    simp [splitBehind, Scan.feed, Scan.close, blank]

theorem foldl_feed_items (items : List Item) (words : List (List Char)) (word : List Char) :
    (itemsSource items).foldl Scan.feed ⟨words, .quoted word⟩ =
      ⟨words, .quoted ((items.map Item.char).reverse ++ word)⟩ := by
  induction items generalizing word with
  | nil => rfl
  | cons item items ih =>
    rw [itemsSource_cons]
    cases item with
    | plain c notQuote notBackslash =>
      simp [Item.source, Item.char, Scan.feed, Scan.moveTo, notQuote, notBackslash, ih]
    | escaped c => simp [Item.source, Item.char, Scan.feed, Scan.moveTo, ih]

theorem foldl_feed_quote (items : List Item) (words : List (List Char)) :
    ('"' :: itemsSource items).foldl Scan.feed ⟨words, .between⟩ =
      ⟨words, .quoted (items.map Item.char).reverse⟩ := by
  have opens : Scan.feed ⟨words, .between⟩ '"' = ⟨words, .quoted []⟩ := rfl
  rw [List.foldl_cons, opens, foldl_feed_items, List.append_nil]

theorem splitBehind_quoted (items : List Item) (words : List (List Char)) (line : List Char) :
    splitBehind words ('"' :: itemsSource items ++ ['"'] ++ line) =
      splitBehind (items.map Item.char :: words) line := by
  rw [splitBehind, List.foldl_append, List.foldl_append, foldl_feed_quote]
  simp [splitBehind, Scan.feed, Scan.close]

theorem splitBehind_unclosed (items : List Item) (words : List (List Char)) :
    splitBehind words ('"' :: itemsSource items) = .error .unclosedQuote := by
  rw [splitBehind, foldl_feed_quote]
  rfl

theorem splitBehind_dangling (items : List Item) (words : List (List Char)) :
    splitBehind words ('"' :: (itemsSource items ++ ['\\'])) = .error .danglingEscape := by
  rw [splitBehind, ← List.cons_append, List.foldl_append, foldl_feed_quote]
  rfl

/-- Pieces are read one by one, and what is behind them is read as if it stood behind their texts
only. -/
theorem splitBehind_of_begins (h : Begins line ps rest) (words : List (List Char)) :
    splitBehind words line = splitBehind ((textsOf ps).reverse ++ words) rest := by
  induction h generalizing words with
  | nil rest => rfl
  | @cons line rest ps p stops more ih =>
    cases p with
    | gap c blank =>
      rw [Piece.source, List.singleton_append, splitBehind_gap blank, ih]
      rfl
    | bare first front starts notQuote solid =>
      rw [Piece.source, splitBehind_bare starts notQuote solid (stops rfl), ih]
      simp [textsOf, Piece.text?]
    | quoted items =>
      rw [Piece.source, splitBehind_quoted, ih]
      simp [textsOf, Piece.text?]

/-! ## Taking lines apart -/

/-- Items are taken off a text up to a quote, up to a backslash that is the last character, or up to
the end. -/
theorem exists_items : ∀ text : List Char, ∃ items,
    (∃ tail, text = itemsSource items ++ '"' :: tail) ∨ text = itemsSource items ++ ['\\'] ∨
      text = itemsSource items
  | [] => ⟨[], .inr (.inr rfl)⟩
  | c :: cs => by
    by_cases quote : c = '"'
    · exact ⟨[], .inl ⟨cs, by rw [quote]; rfl⟩⟩
    have extend (item : Item) {text : List Char} (items : List Item)
        (h : (∃ tail, text = itemsSource items ++ '"' :: tail) ∨
          text = itemsSource items ++ ['\\'] ∨ text = itemsSource items) :
        ∃ items', (∃ tail, item.source ++ text = itemsSource items' ++ '"' :: tail) ∨
          item.source ++ text = itemsSource items' ++ ['\\'] ∨
          item.source ++ text = itemsSource items' := by
      refine ⟨item :: items, ?_⟩
      rcases h with ⟨tail, rfl⟩ | rfl | rfl
      · exact .inl ⟨tail, by simp [itemsSource]⟩
      · exact .inr (.inl (by simp [itemsSource]))
      · exact .inr (.inr (by simp [itemsSource]))
    by_cases backslash : c = '\\'
    · subst backslash
      match cs with
      | [] => exact ⟨[], .inr (.inl rfl)⟩
      | d :: cs =>
        obtain ⟨items, h⟩ := exists_items cs
        exact extend (.escaped d) items h
    · obtain ⟨items, h⟩ := exists_items cs
      exact extend (.plain c quote backslash) items h

/-- There is nothing more to take off the text: it has come to its end, or a quote is in the way
that does not close. -/
def Stuck (rest : List Char) : Prop := rest = [] ∨ ∃ text, rest = '"' :: text ∧ Unclosed text

/-- Pieces can be taken off a line until nothing more can be taken off. -/
theorem exists_begins (line : List Char) : ∃ ps rest, Begins line ps rest ∧ Stuck rest := by
  -- What is left behind one piece is shorter than the line.
  induction hn : line.length using Nat.strong_induction_on generalizing line with
  | _ n ih =>
  subst hn
  have extend (p : Piece) {line' : List Char} (whole : line = p.source ++ line')
      (stops : p.isBare = true → Stops line') (shorter : line'.length < line.length) :
      ∃ ps rest, Begins line ps rest ∧ Stuck rest := by
    obtain ⟨ps, rest, begins, stuck⟩ := ih _ shorter line' rfl
    exact ⟨p :: ps, rest, whole ▸ .cons p stops begins, stuck⟩
  cases line with
  | nil => exact ⟨[], [], .nil [], .inl rfl⟩
  | cons c line =>
    by_cases blank : isGap c = true
    · exact extend (.gap c blank) rfl nofun (by simp)
    by_cases quote : c = '"'
    · subst quote
      by_cases closed : Unclosed line
      · exact ⟨[], '"' :: line, .nil _, .inr ⟨line, rfl, closed⟩⟩
      · simp only [Unclosed, not_forall, not_not] at closed
        obtain ⟨items, tail, rfl⟩ := closed
        have whole : '"' :: (itemsSource items ++ '"' :: tail) =
            (Piece.quoted items).source ++ tail := by simp [Piece.source]
        have shorter : tail.length < ('"' :: (itemsSource items ++ '"' :: tail)).length := by
          simp only [List.length_cons, List.length_append]
          omega
        exact extend (.quoted items) whole nofun shorter
    · obtain ⟨front, back, rfl, solid, stops⟩ := exists_cut (!isGap ·) line
      have starts : isGap c = false := by simpa using blank
      have solid' : ∀ d ∈ front, isGap d = false := by simpa using solid
      refine extend (.bare c front starts quote solid') rfl ?_ (by simp)
      intro _ d hd
      simpa using stops d hd

/-! ## One way only -/

theorem Item.source_append_ne (item : Item) (text tail : List Char) :
    item.source ++ text ≠ '"' :: tail := by
  intro h
  cases item with
  | plain c notQuote _ => exact notQuote (List.cons.inj h).1
  | escaped c => exact absurd (List.cons.inj h).1 (by decide)

theorem Item.source_append_inj {item item' : Item} {text text' : List Char}
    (h : item.source ++ text = item'.source ++ text') : item = item' ∧ text = text' := by
  cases item with
  | plain c _ notBackslash =>
    cases item' with
    | plain c' _ _ =>
      obtain ⟨rfl, rfl⟩ := List.cons.inj h
      exact ⟨rfl, rfl⟩
    | escaped c' => exact absurd (List.cons.inj h).1 notBackslash
  | escaped c =>
    cases item' with
    | plain c' _ notBackslash' => exact absurd (List.cons.inj h).1.symm notBackslash'
    | escaped c' =>
      obtain ⟨rfl, rfl⟩ := List.cons.inj (List.cons.inj h).2
      exact ⟨rfl, rfl⟩

/-- No item begins with a quote, so items end where they are closed. -/
theorem itemsSource_append_quote_inj {items items' : List Item} {tail tail' : List Char}
    (h : itemsSource items ++ '"' :: tail = itemsSource items' ++ '"' :: tail') :
    items = items' ∧ tail = tail' := by
  induction items generalizing items' with
  | nil =>
    cases items' with
    | nil => exact ⟨rfl, (List.cons.inj h).2⟩
    | cons item' items' =>
      rw [itemsSource_cons, List.append_assoc] at h
      exact absurd h.symm (item'.source_append_ne _ _)
  | cons item items ih =>
    rw [itemsSource_cons, List.append_assoc] at h
    cases items' with
    | nil => exact absurd h (item.source_append_ne _ _)
    | cons item' items' =>
      rw [itemsSource_cons, List.append_assoc] at h
      obtain ⟨rfl, more⟩ := Item.source_append_inj h
      obtain ⟨rfl, rfl⟩ := ih more
      exact ⟨rfl, rfl⟩

/-- The first piece of a text is told by the text, if a bare token is not cut short. -/
theorem Piece.source_append_inj {p q : Piece} {line line' : List Char}
    (h : p.source ++ line = q.source ++ line') (stops : p.isBare = true → Stops line)
    (stops' : q.isBare = true → Stops line') : p = q ∧ line = line' := by
  cases p with
  | gap c blank =>
    cases q with
    | gap c' _ =>
      obtain ⟨rfl, rfl⟩ := List.cons.inj h
      exact ⟨rfl, rfl⟩
    | bare first' front' starts' _ _ =>
      obtain ⟨rfl, -⟩ := List.cons.inj h
      exact absurd blank (by simp [starts'])
    | quoted items' =>
      obtain ⟨rfl, -⟩ := List.cons.inj h
      exact absurd blank (by decide)
  | bare first front starts notQuote solid =>
    cases q with
    | gap c' blank' =>
      obtain ⟨rfl, -⟩ := List.cons.inj h
      exact absurd blank' (by simp [starts])
    | bare first' front' _ _ solid' =>
      obtain ⟨rfl, more⟩ := List.cons.inj h
      have cut :=
        while_of_cut (p := (!isGap ·)) (by simpa using solid) (by simpa [Stops] using stops rfl)
      have cut' :=
        while_of_cut (p := (!isGap ·)) (by simpa using solid') (by simpa [Stops] using stops' rfl)
      rw [show front ++ line = front' ++ line' from more] at cut
      obtain rfl := cut.1.symm.trans cut'.1
      exact ⟨rfl, cut.2.symm.trans cut'.2⟩
    | quoted items' => exact absurd (List.cons.inj h).1 notQuote
  | quoted items =>
    cases q with
    | gap c' blank' =>
      obtain ⟨rfl, -⟩ := List.cons.inj h
      exact absurd blank' (by decide)
    | bare first' front' _ notQuote' _ => exact absurd (List.cons.inj h).1.symm notQuote'
    | quoted items' =>
      have more : itemsSource items ++ '"' :: line = itemsSource items' ++ '"' :: line' := by
        simpa [source] using h
      obtain ⟨rfl, rfl⟩ := itemsSource_append_quote_inj more
      exact ⟨rfl, rfl⟩

theorem Stuck.not_piece {p : Piece} (h : Stuck (p.source ++ line)) : False := by
  rcases h with nothing | ⟨text, whole, unclosed⟩
  · cases p <;> simp [Piece.source] at nothing
  · cases p with
    | gap c blank =>
      obtain ⟨rfl, -⟩ := List.cons.inj whole
      exact absurd blank (by decide)
    | bare first front _ notQuote _ => exact notQuote (List.cons.inj whole).1
    | quoted items =>
      refine unclosed items line ?_
      simpa [Piece.source] using (List.cons.inj whole).2.symm

/-- There is one way to take a line apart. -/
theorem Begins.unique {rest' : List Char} (h : Begins line ps rest) (h' : Begins line qs rest')
    (stuck : Stuck rest) (stuck' : Stuck rest') : ps = qs ∧ rest = rest' := by
  induction h generalizing qs with
  | nil rest =>
    cases h' with
    | nil => exact ⟨rfl, rfl⟩
    | cons q stops more => exact stuck.not_piece.elim
  | @cons line rest ps p stops more ih =>
    generalize whole : p.source ++ line = line₀ at h'
    cases h' with
    | nil => exact (whole ▸ stuck').not_piece.elim
    | cons q stops' more' =>
      obtain ⟨rfl, rfl⟩ := Piece.source_append_inj whole stops stops'
      obtain ⟨rfl, rfl⟩ := ih more' stuck
      exact ⟨rfl, rfl⟩

/-! ## Arguments -/

/-- The arguments that some pieces of a line stand for: the texts of the tokens in order. -/
def argumentsOf (ps : List Piece) : List String := (textsOf ps).map String.ofList

theorem splitArguments_of_madeOf {line : String} (h : MadeOf line.toList ps) :
    splitArguments line = .ok (argumentsOf ps) := by
  have read : splitWords line.toList = .ok (textsOf ps) :=
    (splitBehind_of_begins h []).trans (by simp)
  rw [splitArguments, read]
  rfl

/-- Behind a quote that does not close, it is the last character that tells the error. -/
theorem splitBehind_of_unclosed (h : Unclosed text) (words : List (List Char)) :
    Dangles text ∧ splitBehind words ('"' :: text) = .error .danglingEscape ∨
      ¬Dangles text ∧ splitBehind words ('"' :: text) = .error .unclosedQuote := by
  obtain ⟨items, ⟨tail, closes⟩ | rfl | rfl⟩ := exists_items text
  · exact absurd closes (h items tail)
  · exact .inl ⟨⟨items, rfl⟩, splitBehind_dangling items words⟩
  · refine .inr ⟨?_, splitBehind_unclosed items words⟩
    rintro ⟨items', same⟩
    have dangling := splitBehind_dangling items' words
    rw [← same, splitBehind_unclosed] at dangling
    cases dangling

theorem splitArguments_of_unclosed {line : String} (h : Begins line.toList ps ('"' :: text))
    (unclosed : Unclosed text) :
    Dangles text ∧ splitArguments line = .error .danglingEscape ∨
      ¬Dangles text ∧ splitArguments line = .error .unclosedQuote := by
  have read : splitWords line.toList = splitBehind ((textsOf ps).reverse ++ []) ('"' :: text) :=
    splitBehind_of_begins h []
  rw [splitArguments, read]
  rcases splitBehind_of_unclosed unclosed ((textsOf ps).reverse ++ []) with
    ⟨dangles, fails⟩ | ⟨complete, fails⟩
  · exact .inl ⟨dangles, by rw [fails]; rfl⟩
  · exact .inr ⟨complete, by rw [fails]; rfl⟩

/-- Splitting keeps to the grammar. A line is split exactly if it is made of spaces, tabs and tokens
of which the bare ones are each followed by a space, a tab or the end, and the arguments are then
the texts of the tokens in order, empty ones included. There is no other way to take such a line
apart. Any other line is made of such pieces up to a quote that does not close; it is the escape
that is missing if the text behind that quote ends with a backslash behind complete items, and
otherwise the closing quote. -/
theorem splitArguments_keeps_to_grammar (line : String) :
    (∀ arguments, splitArguments line = .ok arguments ↔
      ∃ ps, MadeOf line.toList ps ∧ arguments = argumentsOf ps) ∧
    (∀ ps qs, MadeOf line.toList ps → MadeOf line.toList qs → ps = qs) ∧
    ((¬∃ ps, MadeOf line.toList ps) →
      ∃ ps text, Begins line.toList ps ('"' :: text) ∧ Unclosed text) ∧
    ∀ ps text, Begins line.toList ps ('"' :: text) → Unclosed text →
      ((splitArguments line).mapError SplitError.message = .error "escape at end of input" ↔
        Dangles text) ∧
      ((splitArguments line).mapError SplitError.message = .error "quoted arg does not close" ↔
        ¬Dangles text) := by
  refine ⟨?_, ?_, ?_, ?_⟩
  · intro arguments
    constructor
    · intro split
      obtain ⟨ps, rest, begins, rfl | ⟨text, rfl, unclosed⟩⟩ := exists_begins line.toList
      · rw [splitArguments_of_madeOf begins] at split
        exact ⟨ps, begins, (Except.ok.inj split).symm⟩
      · rcases splitArguments_of_unclosed begins unclosed with ⟨-, fails⟩ | ⟨-, fails⟩ <;>
          cases split.symm.trans fails
    · rintro ⟨ps, made, rfl⟩
      exact splitArguments_of_madeOf made
  · intro ps qs made made'
    exact (made.unique made' (.inl rfl) (.inl rfl)).1
  · intro unmade
    obtain ⟨ps, rest, begins, rfl | ⟨text, rfl, unclosed⟩⟩ := exists_begins line.toList
    · exact absurd ⟨ps, begins⟩ unmade
    · exact ⟨ps, text, begins, unclosed⟩
  · intro ps text begins unclosed
    rcases splitArguments_of_unclosed begins unclosed with ⟨dangles, fails⟩ | ⟨complete, fails⟩
    · simp [fails, Except.mapError, SplitError.message, dangles]
    · simp [fails, Except.mapError, SplitError.message, complete]

/-- The bare token of a quote and an equals sign behind a letter, an empty token, and an unfinished
one. -/
def unfinishedLine : String := String.ofList ['a', '"', '=', '\t', '"', '"', '"', 'x', '\\']

/-- The quote in the bare token is ordinary, the next two are an empty token, and the last one does
not close. -/
theorem unfinishedLine_keeps_to_grammar :
    ∃ ps, Begins unfinishedLine.toList ps ['"', 'x', '\\'] ∧ argumentsOf ps = ["a\"=", ""] ∧
      (splitArguments unfinishedLine).mapError SplitError.message =
        .error "escape at end of input" := by
  have begins : Begins unfinishedLine.toList
      [.bare 'a' ['"', '='] rfl (by decide) (by simp [isGap]), .gap '\t' rfl, .quoted []]
      ['"', 'x', '\\'] := by
    have stops : Stops ['\t', '"', '"', '"', 'x', '\\'] := by
      rintro _ ⟨⟩
      rfl
    rw [unfinishedLine, String.toList_ofList]
    exact .cons (.bare 'a' ['"', '='] _ _ _) (fun _ => stops)
      (.cons (.gap '\t' _) nofun (.cons (.quoted []) nofun (.nil _)))
  have dangles : Dangles ['x', '\\'] := ⟨[.plain 'x' (by decide) (by decide)], rfl⟩
  have unclosed : Unclosed ['x', '\\'] := by
    intro items tail closes
    have quote : '"' ∈ ['x', '\\'] := by
      rw [closes]
      simp
    exact absurd quote (by decide)
  obtain ⟨-, -, -, errors⟩ := splitArguments_keeps_to_grammar unfinishedLine
  exact ⟨_, begins, by decide, (errors _ _ begins unclosed).1.2 dangles⟩

end ByteMachine.Debugger
