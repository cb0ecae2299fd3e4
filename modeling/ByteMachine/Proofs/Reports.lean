import ByteMachine.Proofs.Course
import ByteMachine.Proofs.Dump
import ByteMachine.Proofs.Recognition

/-!
# Reports

A line that the debugger cannot follow is reported on one line and otherwise ignored. What is wrong
with it may be found by splitting it, by looking up its command, by reading its numbers or by
comparing an address with the size of memory (`IllFormed`). Whatever is shown of the line in the
report stays on the line of the report. Since nothing but the report comes of such a line, a session
without it is the same session without its report.
-/
namespace ByteMachine

/-! ## Quoted text on one line -/

theorem Text.newline_notMem_escape (c : Char) : '\n' ∉ Text.escape c := by
  have digits : '\n' ∉ Nat.toDigits 16 c.toNat := by
    intro inside
    exact Numeral.newline_notMem_digits (by decide) (by decide) c.toNat
      (List.mem_map_of_mem (f := Char.toUpper) inside)
  fun_cases escape c with
  | case7 c _ _ _ other =>
    rw [List.mem_singleton]
    exact fun same => other same.symm
  | case8 => simp [digits]
  | _ => decide

theorem Text.newline_notMem_quote (text : String) : '\n' ∉ (Text.quote text).toList := by
  simp [newline_notMem_escape]

namespace Debugger

open Text

/-! ## Ill-formed lines -/

/-- What is wrong with a line that the debugger cannot follow. -/
inductive IllFormed : ScriptLine → Complaint → Prop where
  /-- A quote does not close, or nothing is behind an escape. -/
  | malformed {line : String} {e : SplitError} (split : splitArguments line = .error e) :
      IllFormed (.text line) (.malformed e)
  /-- The command is unknown. -/
  | unknown {line name : String} {arguments : List String}
      (split : splitArguments line = .ok (name :: arguments)) (unnamed : ∀ v, ¬Names name v) :
      IllFormed (.text line) (.unknownCommand (lowerCase name))
  /-- The count of a step is rejected. -/
  | count {line name text : String} {arguments : List String}
      (split : splitArguments line = .ok (name :: text :: arguments)) (named : Names name .step)
      (rejected : Rejected text) : IllFormed (.text line) (.invalidNumber text)
  /-- The start of a dump is rejected. -/
  | start {line name text : String} {arguments : List String}
      (split : splitArguments line = .ok (name :: text :: arguments)) (named : Names name .dump)
      (rejected : Rejected text) : IllFormed (.text line) (.invalidNumber text)
  /-- The length of a dump is rejected. -/
  | length {line name first text : String} {arguments : List String} {start : Nat}
      (split : splitArguments line = .ok (name :: first :: text :: arguments))
      (named : Names name .dump) (fits : start < 2 ^ 64) (standsFor : StandsFor first start)
      (rejected : Rejected text) : IllFormed (.text line) (.invalidNumber text)
  /-- The start of a dump is outside memory. -/
  | outside {line name first : String} {arguments : List String} {start length : Nat}
      (split : splitArguments line = .ok (name :: first :: arguments)) (named : Names name .dump)
      (fits : start < 2 ^ 64) (standsFor : StandsFor first start)
      (second : Denotes 16 arguments[0]? length) (outside : 256 ≤ start) :
      IllFormed (.text line) (.outsideMemory start)

variable {σ : Type} [Sink σ] {l : ScriptLine} {c : Complaint} {line name : String}
  {arguments : List String} {v : Verb}

theorem ofLine_of_complaint (h : Asks line (.error c)) :
    Request.ofLine (.text line) = .complaint c := by
  rw [Request.ofLine, h.parse_eq]

theorem ofLine_of_command (split : splitArguments line = .ok (name :: arguments))
    (named : Names name v) (stays : v ≠ .quit) :
    Request.ofLine (.text line) = .command ⟨v, arguments⟩ := by
  rw [Request.ofLine, (Asks.command split named).parse_eq]
  exact if_neg stays

/-- An ill-formed line asks for a complaint or for a command that cannot be carried out. -/
theorem IllFormed.request (h : IllFormed l c) :
    Request.ofLine l = .complaint c ∨ ∃ arguments,
      (Request.ofLine l = .command ⟨.step, arguments⟩ ∧ numberOr 1 arguments[0]? = .error c) ∨
      Request.ofLine l = .command ⟨.dump, arguments⟩ ∧ ∀ s, Selects s arguments (.error c) := by
  cases h with
  | malformed split => exact .inl (ofLine_of_complaint (.malformed split))
  | unknown split unnamed => exact .inl (ofLine_of_complaint (.unknown split unnamed))
  | count split named rejected =>
    refine .inr ⟨_, .inl ⟨ofLine_of_command split named (by decide), ?_⟩⟩
    exact numberOr_eq_error_iff.2 ⟨_, rfl, rejected, rfl⟩
  | start split named rejected =>
    refine .inr ⟨_, .inr ⟨ofLine_of_command split named (by decide), ?_⟩⟩
    exact fun s => .start rfl rejected
  | length split named fits standsFor rejected =>
    refine .inr ⟨_, .inr ⟨ofLine_of_command split named (by decide), ?_⟩⟩
    exact fun s => .length (.given fits standsFor) rfl rejected
  | outside split named fits standsFor second outside =>
    refine .inr ⟨_, .inr ⟨ofLine_of_command split named (by decide), ?_⟩⟩
    exact fun s => .outside (.given fits standsFor) (by simpa using second) outside

theorem IllFormed.isLast_eq (h : IllFormed l c) : (Request.ofLine l).isLast = false := by
  rcases h.request with same | ⟨arguments, ⟨same, -⟩ | ⟨same, -⟩⟩ <;> rw [same] <;> rfl

/-- All that comes of an ill-formed line is a complaint. -/
theorem IllFormed.answer_eq (h : IllFormed l c) (m : Machine) (k : σ) :
    answer (Request.ofLine l) m k = some (complain c m k) := by
  rcases h.request with same | ⟨arguments, ⟨same, refused⟩ | ⟨same, refused⟩⟩
  · rw [same]
    rfl
  · rw [same]
    simp only [answer, perform, step, refused]
  · rw [same]
    exact congrArg some (dump_of_complaint (refused m.state) k)

theorem IllFormed.takes (h : IllFormed l c) (m : Machine) :
    Takes (answer (σ := σ) (Request.ofLine l)) m
      (some ⟨.ok (), m, [], [.line (complaintText c)]⟩) := by
  intro k hk
  rw [h.answer_eq m k]
  exact takes_complain c m k hk

/-! ## Reports on one line -/

theorem Item.char_mem_source (item : Item) : item.char ∈ item.source := by
  cases item <;> simp [char, source]

theorem Piece.mem_source {p : Piece} {text : List Char} {c : Char} (h : p.text? = some text)
    (hc : c ∈ text) : c ∈ p.source := by
  cases p with
  | gap _ _ => cases h
  | bare first front _ _ _ =>
    obtain rfl : first :: front = text := Option.some.inj h
    exact hc
  | quoted items =>
    obtain rfl : items.map Item.char = text := Option.some.inj h
    obtain ⟨item, inside, rfl⟩ := List.mem_map.1 hc
    have written : item.char ∈ itemsSource items :=
      List.mem_flatMap.2 ⟨item, inside, item.char_mem_source⟩
    simp [source, written]

theorem Begins.mem_line {line rest text : List Char} {ps : List Piece} {c : Char}
    (h : Begins line ps rest) (ht : text ∈ textsOf ps) (hc : c ∈ text) : c ∈ line := by
  induction h with
  | nil rest => cases ht
  | cons p stops more ih =>
    rw [List.mem_append]
    obtain ⟨q, hq, token⟩ := List.mem_filterMap.1 ht
    rcases List.mem_cons.1 hq with rfl | later
    · exact .inl (Piece.mem_source token hc)
    · exact .inr (ih (List.mem_filterMap.2 ⟨q, later, token⟩))

/-- The characters of the arguments stand on the line. -/
theorem mem_of_splitArguments {text : String} {c : Char} (h : splitArguments line = .ok arguments)
    (ht : text ∈ arguments) (hc : c ∈ text.toList) : c ∈ line.toList := by
  obtain ⟨ps, made, rfl⟩ := exists_madeOf h
  obtain ⟨cs, hcs, rfl⟩ := List.mem_map.1 ht
  rw [String.toList_ofList] at hc
  exact Begins.mem_line made hcs hc

theorem newline_notMem_invalidNumber {text : String} (h : '\n' ∉ text.toList) :
    '\n' ∉ (Complaint.invalidNumber text).message.toList := by
  have told : (Complaint.invalidNumber text).message = "invalid number: " ++ text := rfl
  simp [told, h]

/-- A line is reported on one line. -/
theorem IllFormed.newline_notMem (h : IllFormed (.text line) c) (inline : '\n' ∉ line.toList) :
    '\n' ∉ c.message.toList := by
  have argument {arguments : List String} {text : String}
      (split : splitArguments line = .ok arguments) (ht : text ∈ arguments) :
      '\n' ∉ text.toList :=
    fun inside => inline (mem_of_splitArguments split ht inside)
  cases h with
  | @malformed _ e split => cases e <;> decide
  | @unknown _ name _ split unnamed =>
    have told : (Complaint.unknownCommand (lowerCase name)).message =
        "unknown command " ++ quote (lowerCase name) := rfl
    rw [told, String.toList_append, List.mem_append, not_or]
    exact ⟨by decide, newline_notMem_quote _⟩
  | count split named rejected => exact newline_notMem_invalidNumber (argument split (by simp))
  | start split named rejected => exact newline_notMem_invalidNumber (argument split (by simp))
  | length split named fits standsFor rejected =>
    exact newline_notMem_invalidNumber (argument split (by simp))
  | @outside _ _ _ _ start _ split named fits standsFor second outside =>
    have told : (Complaint.outsideMemory start).message =
        "address 0x" ++ Numeral.hex 1 start ++ " is outside memory" := rfl
    have digits : '\n' ∉ Numeral.padded 16 1 start :=
      Numeral.newline_notMem_padded (by decide) (by decide) 1 start
    simp [told, digits]

/-! ## Sessions without ill-formed lines -/

/-- A line that has been answered, and the demands that were made for it. -/
structure Passage where
  line : ScriptLine
  demands : List Demand

/-- The demands of passages, in order. -/
def demandsOf (passages : List Passage) : List Demand := passages.flatMap Passage.demands

/-- The passages are those of the lines up to where a session ends, and where a line is to be
dropped, its passage is the report of a complaint. -/
structure PassagesOf (lines : List ScriptLine) (drops : ScriptLine → Bool)
    (result : Except Fault Unit) (passages : List Passage) : Prop where
  begins : passages.map Passage.line <+: lines
  complete : result = .ok () → passages.map Passage.line = lines ∨
    ∃ p ∈ passages, (Request.ofLine p.line).isLast = true
  reports : ∀ p ∈ passages, drops p.line = true →
    ∃ c, IllFormed p.line c ∧ p.demands = [.line (complaintText c)]

theorem PassagesOf.cons {lines : List ScriptLine} {drops : ScriptLine → Bool}
    {result : Except Fault Unit} {passages : List Passage} {demands : List Demand}
    (h : PassagesOf lines drops result passages)
    (report : drops l = true → ∃ c, IllFormed l c ∧ demands = [.line (complaintText c)]) :
    PassagesOf (l :: lines) drops result (⟨l, demands⟩ :: passages) where
  begins := List.cons_prefix_cons.2 ⟨rfl, h.begins⟩
  complete ok := by
    rcases h.complete ok with all | ⟨p, hp, last⟩
    · exact .inl (congrArg (l :: ·) all)
    · exact .inr ⟨p, List.mem_cons_of_mem _ hp, last⟩
  reports := List.forall_mem_cons.2 ⟨report, h.reports⟩

/-- The record of how lines are answered: a course with its demands in passages. -/
structure Record where
  result : Except Fault Unit
  machine : Machine
  log : List LogEntry
  passages : List Passage

namespace Record

/-- The course that is recorded. -/
def course (r : Record) : Course := ⟨r.result, r.machine, r.log, demandsOf r.passages⟩

/-- The record without the passages of some lines. -/
def without (drops : ScriptLine → Bool) (r : Record) : Record :=
  { r with passages := r.passages.filter fun p => !drops p.line }

/-- The record of a line that is answered on the course. -/
def single (l : ScriptLine) (c : Course) : Record := ⟨c.result, c.machine, c.log, [⟨l, c.demands⟩]⟩

/-- The record with a line before it that has been answered on the course. -/
def behind (r : Record) (l : ScriptLine) (c : Course) : Record :=
  { r with log := c.log ++ r.log, passages := ⟨l, c.demands⟩ :: r.passages }

theorem course_single (l : ScriptLine) (c : Course) : (single l c).course = c := by
  simp [single, course, demandsOf]

theorem course_behind (r : Record) (l : ScriptLine) (c : Course) :
    (r.behind l c).course = r.course.behind c := by
  simp [behind, course, demandsOf, Course.behind]

variable {drops : ScriptLine → Bool}

theorem without_single (keep : drops l = false) (c : Course) :
    (single l c).without drops = single l c := by
  simp [single, without, keep]

theorem without_behind_of_drop (drop : drops l = true) (r : Record) (c : Course) (h : c.log = []) :
    (r.behind l c).without drops = r.without drops := by
  simp [behind, without, drop, h]

theorem without_behind_of_keep (keep : drops l = false) (r : Record) (c : Course) :
    (r.behind l c).without drops = (r.without drops).behind l c := by
  simp [behind, without, keep]

end Record

/-- The lines are answered on the machine as the record says, and with some of them dropped they
are answered as it says without their passages. Without a record they are not answered in either
case. -/
structure Records (drops : ScriptLine → Bool) (lines : List ScriptLine) (m : Machine)
    (r : Option Record) : Prop where
  passages : ∀ a ∈ r, PassagesOf lines drops a.result a.passages
  whole : Takes (answerAll (σ := σ) (lines.map .ofLine)) m (r.map Record.course)
  kept : Takes (answerAll (σ := σ) ((lines.filter fun l => !drops l).map .ofLine)) m
    (r.map fun a => (a.without drops).course)

section Deletion

variable {drops : ScriptLine → Bool} {lines : List ScriptLine} {m : Machine}

theorem records_nil (drops : ScriptLine → Bool) (m : Machine) :
    Records (σ := σ) drops [] m (some ⟨.ok (), m, [], []⟩) where
  passages := by
    rintro a ⟨⟩
    exact ⟨List.prefix_rfl, fun _ => .inl rfl, nofun⟩
  whole := Machine.takes_done m
  kept := Machine.takes_done m

theorem map_filter_of_keep (keep : drops l = false) (lines : List ScriptLine) :
    ((l :: lines).filter fun l => !drops l).map Request.ofLine =
      Request.ofLine l :: (lines.filter fun l => !drops l).map Request.ofLine := by
  simp [keep]

/-- A dropped line adds the report of its complaint. -/
theorem Records.drop {r : Option Record} (h : Records (σ := σ) drops lines m r)
    (drop : drops l = true) (ill : IllFormed l c) :
    Records (σ := σ) drops (l :: lines) m
      (r.map (·.behind l ⟨.ok (), m, [], [.line (complaintText c)]⟩)) where
  passages := by
    intro a ha
    obtain ⟨b, hb, rfl⟩ := Option.map_eq_some_iff.1 ha
    exact (h.passages b hb).cons fun _ => ⟨c, ill, rfl⟩
  whole := by
    have answered := takes_answerAll_of_more (ill.takes (σ := σ) m) ill.isLast_eq rfl h.whole
    simpa only [List.map_cons, Option.map_map, Function.comp_def, Record.course_behind] using
      answered
  kept := by
    have same : (l :: lines).filter (fun l => !drops l) = lines.filter fun l => !drops l := by
      simp [drop]
    simpa [same, Option.map_map, Function.comp_def, Record.without_behind_of_drop drop] using h.kept

/-- A line at which the session ends is the last one on record. -/
theorem records_of_end {d : Option Course} (keep : drops l = false)
    (first : Takes (answer (σ := σ) (Request.ofLine l)) m d)
    (ends : (Request.ofLine l).isLast = true ∨ ∀ c ∈ d, c.result ≠ .ok ())
    (lines : List ScriptLine) :
    Records (σ := σ) drops (l :: lines) m (d.map (Record.single l)) where
  passages := by
    intro a ha
    obtain ⟨c, hc, rfl⟩ := Option.map_eq_some_iff.1 ha
    refine ⟨List.prefix_append [l] lines, ?_, ?_⟩
    · intro ok
      have last := ends.resolve_right fun never => never c hc ok
      exact .inr ⟨⟨l, c.demands⟩, List.mem_singleton_self _, last⟩
    · intro p hp drop
      obtain rfl := List.mem_singleton.1 hp
      exact absurd drop (by simp [keep])
  whole := by
    simpa [Option.map_map, Function.comp_def, Record.course_single] using
      takes_answerAll_of_end first ends (lines.map .ofLine)
  kept := by
    rw [map_filter_of_keep keep]
    simpa [Option.map_map, Function.comp_def, Record.course_single, Record.without_single keep]
      using takes_answerAll_of_end first ends ((lines.filter fun l => !drops l).map .ofLine)

/-- Any other line is the first one on record. -/
theorem Records.cons {r : Option Record} {d : Course} (h : Records (σ := σ) drops lines d.machine r)
    (keep : drops l = false) (first : Takes (answer (σ := σ) (Request.ofLine l)) m (some d))
    (more : (Request.ofLine l).isLast = false) (ok : d.result = .ok ()) :
    Records (σ := σ) drops (l :: lines) m (r.map (·.behind l d)) where
  passages := by
    intro a ha
    obtain ⟨b, hb, rfl⟩ := Option.map_eq_some_iff.1 ha
    exact (h.passages b hb).cons fun drop => absurd drop (by simp [keep])
  whole := by
    have answered := takes_answerAll_of_more first more ok h.whole
    simpa only [List.map_cons, Option.map_map, Function.comp_def, Record.course_behind] using
      answered
  kept := by
    have answered := takes_answerAll_of_more first more ok h.kept
    rw [map_filter_of_keep keep]
    simpa only [Option.map_map, Function.comp_def, Record.without_behind_of_keep keep,
      Record.course_behind] using answered

/-- Lines are answered alike with and without ill-formed ones among them, apart from the reports
of these. -/
theorem exists_records (ill : ∀ l, drops l = true → ∃ c, IllFormed l c) (lines : List ScriptLine)
    (m : Machine) : ∃ r, Records (σ := σ) drops lines m r := by
  induction lines generalizing m with
  | nil => exact ⟨_, records_nil drops m⟩
  | cons l lines ih =>
    rcases keep : drops l
    · obtain ⟨d, first⟩ := steady_answer (σ := σ) (Request.ofLine l) m
      by_cases ends : (Request.ofLine l).isLast = true ∨ ∀ c ∈ d, c.result ≠ .ok ()
      · exact ⟨_, records_of_end keep first ends lines⟩
      · simp only [not_or, not_forall, not_not, Bool.not_eq_true] at ends
        obtain ⟨more, c, rfl, ok⟩ := ends
        obtain ⟨r, later⟩ := ih c.machine
        exact ⟨_, later.cons keep first more ok⟩
    · obtain ⟨c, illFormed⟩ := ill l keep
      obtain ⟨r, later⟩ := ih m
      exact ⟨_, later.drop keep illFormed⟩

end Deletion

/-- Ill-formed lines are reported and otherwise ignored. Such a line, unless a line end is hidden in
it, is answered by one line of text behind the name of the program; the machine stays as it is,
nothing is logged, and the lines behind it are answered next. So a session with such lines and the
session in which they are dropped come to the same result, the same machine and the same log, or
none of them ends; and there are passages of what is written, one for each line up to where the
session ends, of which only those of the dropped lines, one report for each of them, are not
written in the second session. -/
theorem ill_formed_lines_are_reported :
    (∀ line c, IllFormed (.text line) c → '\n' ∉ line.toList →
      ∀ (m : Machine) (k : σ), Accepting k → ∃ report : String, '\n' ∉ report.toList ∧
        let k' := (Sink.write k ("ls8-rs: " ++ report ++ "\n")).2
        answer (Request.ofLine (.text line)) m k = some ⟨.ok (), m, k', []⟩ ∧
        ∀ more, answerAll ((.text line :: more).map Request.ofLine) m k =
          answerAll (more.map Request.ofLine) m k') ∧
    ∀ (lines : List ScriptLine) (drops : ScriptLine → Bool),
      (∀ l, drops l = true → ∃ c, IllFormed l c) → ∀ m : Machine,
      (∀ k : σ, Accepting k → session lines m k = none ∧
        session (lines.filter fun l => !drops l) m k = none) ∨
      ∃ result m' log passages, PassagesOf lines drops result passages ∧
        let opening : Demand := .line (nextText m.state)
        let closing : List Demand := if result.isOk then [.flush] else []
        ∀ k : σ, Accepting k →
          session lines m k =
            some ⟨result, m', give (opening :: demandsOf passages ++ closing) k, log⟩ ∧
          session (lines.filter fun l => !drops l) m k = some ⟨result, m',
            give (opening :: demandsOf (passages.filter fun p => !drops p.line) ++ closing) k,
            log⟩ := by
  refine ⟨?_, ?_⟩
  · intro line c ill inline m k hk
    have answered : answer (Request.ofLine (.text line)) m k =
        some ⟨.ok (), m, (Sink.write k ("ls8-rs: " ++ c.message ++ "\n")).2, []⟩ :=
      ill.takes m k hk
    refine ⟨c.message, ill.newline_notMem inline, answered, ?_⟩
    intro more
    rw [List.map_cons, answerAll_cons, if_neg (by simp [ill.isLast_eq]), answered]
    simp [Outcome.andThen?]
  · intro lines drops ill m
    obtain ⟨r, records⟩ := exists_records (σ := σ) ill lines m
    have whole := takes_session records.whole
    have kept := takes_session records.kept
    cases r with
    | none => exact .inl fun k hk => ⟨whole k hk, kept k hk⟩
    | some r =>
      refine .inr ⟨r.result, r.machine, (sessionCourse m r.course).log, r.passages,
        records.passages r rfl, ?_⟩
      intro opening closing k hk
      exact ⟨whole k hk, kept k hk⟩

/-- A step with a count that is no number. -/
def badStep : String := "S \"no\" 1"

/-- The step is reported, and a session in which it stands before a look at the registers is that
look alone, apart from the report. -/
theorem badStep_is_reported :
    let m := Machine.new ⟨true, true, true⟩
    let k := LineSink.unlimited
    IllFormed (.text badStep) (.invalidNumber "no") ∧ Accepting k ∧
    (∃ report : String, '\n' ∉ report.toList ∧
      answer (Request.ofLine (.text badStep)) m k =
        some ⟨.ok (), m, (Sink.write k ("ls8-rs: " ++ report ++ "\n")).2, []⟩) ∧
    ∃ result m' log passages,
      PassagesOf [.text badStep, .text "regs"] (· == .text badStep) result passages ∧
      session [.text badStep, .text "regs"] m k = some ⟨result, m',
        give (.line (nextText m.state) :: demandsOf passages ++
          if result.isOk then [.flush] else []) k, log⟩ ∧
      session [.text "regs"] m k = some ⟨result, m',
        give (.line (nextText m.state) ::
          demandsOf (passages.filter fun p => !(p.line == .text badStep)) ++
            if result.isOk then [.flush] else []) k, log⟩ := by
  intro m k
  have hk : Accepting k := accepting_unlimited
  have rejected : Rejected "no" := rejected_of_readNotation?_eq_none (by decide)
  have split : splitArguments badStep = .ok ["S", "no", "1"] := by decide
  have ill : IllFormed (.text badStep) (.invalidNumber "no") := .count split (.inr rfl) rejected
  have drops (l : ScriptLine) (drop : (l == .text badStep) = true) : ∃ c, IllFormed l c := by
    obtain rfl := eq_of_beq drop
    exact ⟨_, ill⟩
  obtain ⟨reports, deletes⟩ := ill_formed_lines_are_reported (σ := LineSink)
  obtain ⟨report, inline, answered, -⟩ := reports _ _ ill (by decide) m k hk
  refine ⟨ill, hk, ⟨report, inline, answered⟩, ?_⟩
  rcases deletes [.text badStep, .text "regs"] _ drops m with
    endless | ⟨result, m', log, passages, passagesOf, both⟩
  · have ends : (session [.text "regs"] m k).isSome = true := rfl
    have none : session [.text "regs"] m k = none := (endless k hk).2
    rw [none] at ends
    cases ends
  · exact ⟨result, m', log, passages, passagesOf, both k hk⟩

end Debugger

end ByteMachine
