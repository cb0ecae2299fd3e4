import Mathlib.Data.String.Basic
import ByteMachine.Debugger.Session
import ByteMachine.Proofs.Numbers
import ByteMachine.Proofs.Rendering

/-!
# Recognised commands

A line asks for a command exactly if its first argument is one of the twelve names, whatever the
case of its letters is. A line of spaces and tabs asks for nothing, and any other line is an error.
Case is folded in ASCII to recognise a name, and the mapping of all letters would recognise the same
names, for they have no letter that is the lower-case form of one behind ASCII. A name can be
spelled in several ways, and a session is the same whatever spellings there are in its script.
-/
namespace ByteMachine.Debugger

open Text

/-- The text is the full name or the initial of the verb, apart from the case of its letters. -/
def Names (text : String) (v : Verb) : Prop :=
  SameUpToCase text.toList v.name.toList ∨ SameUpToCase text.toList v.initial.toList

variable {line rest name : String} {c : Command} {v : Verb} {p q : Piece} {ps : List Piece}

/-! ## Names -/

theorem Verb.ofName?_eq_some_iff : ofName? name = some v ↔ name = v.name ∨ name = v.initial := by
  constructor
  · intro found
    have named := List.find?_some found
    simp only [Bool.or_eq_true, beq_iff_eq] at named
    exact named.imp Eq.symm Eq.symm
  · rintro (rfl | rfl)
    · exact ofName?_name v
    · exact ofName?_initial v

/-- The names are in lower case, and none of their letters has a capital behind ASCII. -/
theorem Verb.names_are_plain (v : Verb) :
    (v.name.toList.map Char.toLower = v.name.toList ∧ ∀ c ∈ v.name.toList, ¬IsForeign c) ∧
      v.initial.toList.map Char.toLower = v.initial.toList ∧
      ∀ c ∈ v.initial.toList, ¬IsForeign c := by
  have plain : (v.name ++ v.initial).toList.all (fun c => !decide (IsForeign c)) = true := by
    cases v <;> decide
  simp only [List.all_eq_true, String.toList_append, Bool.not_eq_true', decide_eq_false_iff_not,
    List.forall_mem_append] at plain
  have ⟨full, short⟩ := plain
  exact ⟨⟨by cases v <;> decide, full⟩, by cases v <;> decide, short⟩

/-- Folding case in ASCII recognises the names. -/
theorem ofName?_toLower_iff :
    Verb.ofName? (String.ofList (name.toList.map Char.toLower)) = some v ↔ Names name v := by
  have ⟨⟨full, _⟩, short, _⟩ := v.names_are_plain
  rw [Verb.ofName?_eq_some_iff, String.ofList_eq, String.ofList_eq, Names, SameUpToCase,
    SameUpToCase, full, short]

/-- Mapping all letters to lower case recognises the same names. -/
theorem ofName?_lowerCase_iff : Verb.ofName? (lowerCase name) = some v ↔ Names name v := by
  have ⟨⟨_, full⟩, _, short⟩ := v.names_are_plain
  rw [lowerCase, Verb.ofName?_eq_some_iff, String.ofList_eq, String.ofList_eq,
    lowerAfter_eq_iff full, lowerAfter_eq_iff short, ← String.ofList_eq, ← String.ofList_eq,
    ← Verb.ofName?_eq_some_iff, ofName?_toLower_iff]

theorem ofArguments_of_names (h : Names name v) (arguments : List String) :
    Command.ofArguments name arguments = .ok ⟨v, arguments⟩ := by
  rw [Command.ofArguments, ofName?_toLower_iff.2 h]

theorem ofArguments_of_not_names (h : ∀ v, ¬Names name v) (arguments : List String) :
    Command.ofArguments name arguments = .error (.unknownCommand (lowerCase name)) := by
  have none : Verb.ofName? (String.ofList (name.toList.map Char.toLower)) = none := by
    rw [Option.eq_none_iff_forall_ne_some]
    intro v found
    exact h v (ofName?_toLower_iff.1 found)
  rw [Command.ofArguments, none]

/-! ## Lines -/

/-- What is asked for on a line, told by its arguments. -/
inductive Asks (line : String) : Except Complaint (Option Command) → Prop where
  | nothing (split : splitArguments line = .ok []) : Asks line (.ok none)
  | command {name : String} {v : Verb} {arguments : List String}
      (split : splitArguments line = .ok (name :: arguments)) (named : Names name v) :
      Asks line (.ok (some ⟨v, arguments⟩))
  | malformed {e : SplitError} (split : splitArguments line = .error e) :
      Asks line (.error (.malformed e))
  | unknown {name : String} {arguments : List String}
      (split : splitArguments line = .ok (name :: arguments)) (unnamed : ∀ v, ¬Names name v) :
      Asks line (.error (.unknownCommand (lowerCase name)))

theorem Asks.parse_eq {r : Except Complaint (Option Command)} (h : Asks line r) :
    Command.parse line = r := by
  rw [Command.parse]
  cases h with
  | nothing split => rw [split]
  | command split named =>
    rw [split]
    exact congrArg (Except.map some) (ofArguments_of_names named _)
  | malformed split => rw [split]
  | unknown split unnamed =>
    rw [split]
    exact congrArg (Except.map some) (ofArguments_of_not_names unnamed _)

theorem exists_asks (line : String) : ∃ r, Asks line r := by
  rcases split : splitArguments line with e | _ | ⟨name, arguments⟩
  · exact ⟨_, .malformed split⟩
  · exact ⟨_, .nothing split⟩
  · by_cases named : ∃ v, Names name v
    · obtain ⟨v, named⟩ := named
      exact ⟨_, .command split named⟩
    · exact ⟨_, .unknown split (not_exists.1 named)⟩

/-- A line is understood as what it asks for. -/
theorem parse_eq_iff {r : Except Complaint (Option Command)} :
    Command.parse line = r ↔ Asks line r := by
  refine ⟨?_, Asks.parse_eq⟩
  rintro rfl
  obtain ⟨r, asks⟩ := exists_asks line
  rwa [asks.parse_eq]

/-! ## The first token -/

/-- On a line that is made of pieces there is either no token, or a first one behind spaces and
tabs. -/
theorem MadeOf.first_cases {line : List Char} (h : MadeOf line ps) :
    (textsOf ps = [] ∧ ∀ c ∈ line, isGap c = true) ∨
      ∃ (indent : Spacing) (p : Piece) (text rest : List Char) (texts : List (List Char)),
        line = indent.chars ++ (p.source ++ rest) ∧ (p.isBare = true → Stops rest) ∧
        p.text? = some text ∧ textsOf ps = text :: texts := by
  rw [MadeOf] at h
  generalize hr : [] = rest at h
  induction h with
  | nil rest =>
    subst hr
    exact .inl ⟨rfl, by simp⟩
  | @cons line rest ps p stops more ih =>
    cases p with
    | gap c blank =>
      rcases ih hr with ⟨none, gaps⟩ | ⟨⟨indent, blanks⟩, p, text, rest', texts, rfl, first⟩
      · exact .inl ⟨none, List.forall_mem_cons.2 ⟨blank, gaps⟩⟩
      · have longer : ∀ d ∈ c :: indent, isGap d = true := List.forall_mem_cons.2 ⟨blank, blanks⟩
        exact .inr ⟨⟨c :: indent, longer⟩, p, text, rest', texts, rfl, first⟩
    | bare first front starts notQuote solid =>
      exact .inr ⟨⟨[], nofun⟩, .bare first front starts notQuote solid, _, line, _, rfl, stops, rfl,
        rfl⟩
    | quoted items => exact .inr ⟨⟨[], nofun⟩, .quoted items, _, line, _, rfl, stops, rfl, rfl⟩

theorem exists_madeOf {arguments : List String} (h : splitArguments line = .ok arguments) :
    ∃ ps, MadeOf line.toList ps ∧ argumentsOf ps = arguments := by
  obtain ⟨ps, rest, begins, rfl | ⟨text, rfl, unclosed⟩⟩ := exists_begins line.toList
  · exact ⟨ps, begins, Except.ok.inj ((splitArguments_of_madeOf begins).symm.trans h)⟩
  · rcases splitArguments_of_unclosed begins unclosed with ⟨-, fails⟩ | ⟨-, fails⟩ <;>
      cases fails.symm.trans h

theorem splitArguments_of_blank (blank : ∀ c ∈ line.toList, isGap c = true) :
    splitArguments line = .ok [] := by
  have read := splitBehind_spacing ⟨line.toList, blank⟩ [] []
  rw [List.append_nil] at read
  exact congrArg (Except.map _) read

/-- A line has no arguments exactly if there is nothing on it but spaces and tabs. -/
theorem splitArguments_eq_nil_iff :
    splitArguments line = .ok [] ↔ ∀ c ∈ line.toList, isGap c = true := by
  refine ⟨?_, splitArguments_of_blank⟩
  intro split
  obtain ⟨ps, made, none⟩ := exists_madeOf split
  rcases made.first_cases with ⟨-, blank⟩ | ⟨_, _, _, _, _, _, _, _, some⟩
  · exact blank
  · simp [argumentsOf, some] at none

/-! ## Spellings -/

/-- The verb is spelled on the line: behind spaces and tabs there is a token that names it, bare or
quoted, and behind the token there is the rest of the line. -/
structure Spelled (line : String) (v : Verb) (p : Piece) (rest : List Char) : Prop where
  toList_eq : ∃ indent : Spacing, line.toList = indent.chars ++ (p.source ++ rest)
  stops : p.isBare = true → Stops rest
  names : ∃ text, p.text? = some text ∧ Names (String.ofList text) v

/-- The line is the same, or the verb on it is spelled in another way. -/
inductive Respelled : ScriptLine → ScriptLine → Prop where
  | same (line : ScriptLine) : Respelled line line
  | other {line line' : String} {v : Verb} {p q : Piece} {rest : List Char}
      (spelled : Spelled line v p rest) (spelled' : Spelled line' v q rest) :
      Respelled (.text line) (.text line')

theorem exists_spelled (h : Command.parse line = .ok (some c)) :
    ∃ p rest, Spelled line c.verb p rest := by
  cases parse_eq_iff.1 h with
  | command split named =>
    obtain ⟨ps, made, arguments⟩ := exists_madeOf split
    rcases made.first_cases with
      ⟨none, -⟩ | ⟨indent, p, text, rest, texts, whole, stops, token, first⟩
    · simp [argumentsOf, none] at arguments
    · rw [argumentsOf, first, List.map_cons] at arguments
      obtain ⟨rfl, -⟩ := List.cons.inj arguments
      exact ⟨p, rest, ⟨indent, whole⟩, stops, text, token, named⟩

/-- What a line asks for depends on the verb and on the rest of the line, not on the spelling. -/
theorem Spelled.parse_eq {rest : List Char} (h : Spelled line v p rest) :
    Command.parse line =
      ((splitArguments (String.ofList rest)).mapError Complaint.malformed).map
        fun arguments => some ⟨v, arguments⟩ := by
  obtain ⟨⟨indent, whole⟩, stops, text, token, named⟩ := h
  have read : splitArguments line =
      (splitArguments (String.ofList rest)).map (String.ofList text :: ·) := by
    have behind : splitWords line.toList = splitBehind [text] rest := by
      have first := splitBehind_of_begins (.cons p stops (.nil rest)) []
      rw [textsOf, List.filterMap_cons_some token] at first
      rw [whole]
      exact (splitBehind_spacing indent [] _).trans first
    rw [splitArguments, behind, splitBehind_eq, splitArguments, String.toList_ofList]
    cases splitWords rest <;> rfl
  rcases split : splitArguments (String.ofList rest) with e | arguments
  · rw [split] at read
    exact Asks.parse_eq (.malformed read)
  · rw [split] at read
    exact Asks.parse_eq (.command read named)

theorem Respelled.ofLine_eq {l l' : ScriptLine} (h : Respelled l l') :
    Request.ofLine l = Request.ofLine l' := by
  cases h with
  | same => rfl
  | other spelled spelled' =>
    rw [Request.ofLine, Request.ofLine, spelled.parse_eq, spelled'.parse_eq]

theorem map_ofLine_eq {lines lines' : List ScriptLine} (h : List.Forall₂ Respelled lines lines') :
    lines.map Request.ofLine = lines'.map Request.ofLine := by
  induction h with
  | nil => rfl
  | cons first _ ih => rw [List.map_cons, List.map_cons, first.ofLine_eq, ih]

/-- Commands are recognised by their names and nothing else. A line has a command exactly if it can
be split and its first argument is one of the names, whatever the case of its letters is, and the
other arguments are those of the command; a line of spaces and tabs has none; and any other line is
an error that says why. It makes no difference whether case is folded in ASCII or for all letters.
Where there is a command on a line, it is spelled by a token, and a session is the same whatever
tokens spell the commands of its script. -/
theorem commands_are_recognized (line : String) :
    (∀ c, Command.parse line = .ok (some c) ↔
      ∃ name, splitArguments line = .ok (name :: c.arguments) ∧ Names name c.verb) ∧
    (Command.parse line = .ok none ↔ ∀ c ∈ line.toList, c = ' ' ∨ c = '\t') ∧
    (∀ complaint, Command.parse line = .error complaint ↔
      (∃ e, splitArguments line = .error e ∧ complaint = .malformed e) ∨
      ∃ name arguments, splitArguments line = .ok (name :: arguments) ∧ (∀ v, ¬Names name v) ∧
        complaint = .unknownCommand (lowerCase name)) ∧
    (∀ name v, Verb.ofName? (lowerCase name) = some v ↔ Names name v) ∧
    (∀ c, Command.parse line = .ok (some c) → ∃ p rest, Spelled line c.verb p rest) ∧
    ∀ (σ : Type) [Sink σ] (lines lines' : List ScriptLine), List.Forall₂ Respelled lines lines' →
      ∀ (m : Machine) (k : σ), session lines m k = session lines' m k := by
  refine ⟨?_, ?_, ?_, ?_, ?_, ?_⟩
  · intro c
    rw [parse_eq_iff]
    constructor
    · rintro (_ | ⟨split, named⟩)
      exact ⟨_, split, named⟩
    · rintro ⟨name, split, named⟩
      exact .command split named
  · have blank : Command.parse line = .ok none ↔ splitArguments line = .ok [] := by
      rw [parse_eq_iff]
      constructor
      · rintro ⟨split⟩
        exact split
      · exact .nothing
    rw [blank, splitArguments_eq_nil_iff]
    simp [isGap]
  · intro complaint
    rw [parse_eq_iff]
    constructor
    · rintro (_ | _ | split | ⟨split, unnamed⟩)
      · exact .inl ⟨_, split, rfl⟩
      · exact .inr ⟨_, _, split, unnamed, rfl⟩
    · rintro (⟨e, split, rfl⟩ | ⟨name, arguments, split, unnamed, rfl⟩)
      · exact .malformed split
      · exact .unknown split unnamed
  · intro name v
    exact ofName?_lowerCase_iff
  · intro c parsed
    exact exists_spelled parsed
  · intro σ _ lines lines' respelled m k
    rw [session, session, map_ofLine_eq respelled]

/-- A step asked for by initial, and in capitals between quotes with a backslash in between. -/
theorem stepsOnce_is_recognized :
    Command.parse "s 1" = .ok (some ⟨.step, ["1"]⟩) ∧
    (∃ p rest, Spelled "s 1" .step p rest) ∧
    List.Forall₂ Respelled [.text "s 1", .unreadable "torn"]
      [.text "\t\"S\\TEP\" 1", .unreadable "torn"] ∧
    session [.text "s 1", .unreadable "torn"] (Machine.new ⟨true, false, true⟩)
        LineSink.unlimited =
      session [.text "\t\"S\\TEP\" 1", .unreadable "torn"] (Machine.new ⟨true, false, true⟩)
        LineSink.unlimited := by
  have step : Names "s" .step := .inr rfl
  have stops : Stops [' ', '1'] := by
    rintro _ ⟨⟩
    rfl
  have bare : Spelled "s 1" .step (.bare 's' [] rfl (by decide) nofun) [' ', '1'] :=
    ⟨⟨⟨[], nofun⟩, rfl⟩, fun _ => stops, ['s'], rfl, step⟩
  have quoted : Spelled "\t\"S\\TEP\" 1" .step
      (.quoted [.plain 'S' (by decide) (by decide), .escaped 'T',
        .plain 'E' (by decide) (by decide), .plain 'P' (by decide) (by decide)]) [' ', '1'] :=
    ⟨⟨⟨['\t'], by simp [isGap]⟩, rfl⟩, nofun, ['S', 'T', 'E', 'P'], rfl, .inl rfl⟩
  have respelled : List.Forall₂ Respelled [.text "s 1", .unreadable "torn"]
      [.text "\t\"S\\TEP\" 1", .unreadable "torn"] :=
    .cons (.other bare quoted) (.cons (.same _) .nil)
  obtain ⟨recognized, -, -, -, spelled, alike⟩ := commands_are_recognized "s 1"
  have parsed : Command.parse "s 1" = .ok (some ⟨.step, ["1"]⟩) :=
    (recognized ⟨.step, ["1"]⟩).2 ⟨"s", by decide, step⟩
  exact ⟨parsed, spelled _ parsed, respelled, alike _ _ _ respelled _ _⟩

end ByteMachine.Debugger
