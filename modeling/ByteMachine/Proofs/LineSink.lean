import ByteMachine.Proofs.Delivery
import ByteMachine.Proofs.Lines
import ByteMachine.Proofs.Numerals

/-!
# Lines in a line sink

The line of a value has one line end, its last character. So a line sink with room takes it as a
whole and has room for one line less, and a line sink without room takes nothing of it.
-/
namespace ByteMachine

/-- The lines of values, one behind the other. -/
def printedText : List UInt8 → String
  | [] => ""
  | v :: vs => printedLine v ++ printedText vs

@[simp] theorem printedText_nil : printedText [] = "" := rfl

@[simp] theorem printedText_cons (v : UInt8) (vs : List UInt8) :
    printedText (v :: vs) = printedLine v ++ printedText vs := rfl

theorem printedText_append (us vs : List UInt8) :
    printedText (us ++ vs) = printedText us ++ printedText vs := by
  induction us with
  | nil => exact String.empty_append.symm
  | cons u us ih => rw [List.cons_append, printedText_cons, printedText_cons, ih,
      String.append_assoc]

/-- The lines of values are their numerals. -/
def numerals (vs : List UInt8) : List (List Char) := vs.map fun v => Numeral.digits 10 v.toNat

theorem hasLines_printedLine (v : UInt8) : HasLines (printedLine v) (numerals [v]) :=
  hasLines_line (Numeral.newline_notMem_digits (by decide) (by decide) v.toNat)

theorem hasLines_printedText (vs : List UInt8) : HasLines (printedText vs) (numerals vs) := by
  induction vs with
  | nil => exact hasLines_empty
  | cons v vs ih => exact (hasLines_printedLine v).append ih

theorem numerals_injective : Function.Injective numerals := by
  intro us vs h
  refine (List.map_inj_right ?_).1 h
  intro u v same
  exact UInt8.toNat_inj.1 (Numeral.digits_injective (by omega) (by omega) same)

/-- The values can be read off their lines. -/
theorem printedText_injective : Function.Injective printedText := by
  intro us vs h
  have same : HasLines (printedText us) (numerals vs) := h ▸ hasLines_printedText vs
  exact numerals_injective ((hasLines_printedText us).unique same)

namespace LineSink

/-- The sink with more text in it and with another amount of room. -/
def taking (k : LineSink) (text : String) (room : Option Nat) : LineSink :=
  { k with text := k.text ++ text, room }

@[simp] theorem text_taking (k : LineSink) (text : String) (room : Option Nat) :
    (k.taking text room).text = k.text ++ text := rfl

@[simp] theorem room_taking (k : LineSink) (text : String) (room : Option Nat) :
    (k.taking text room).room = room := rfl

@[simp] theorem flushFails_taking (k : LineSink) (text : String) (room : Option Nat) :
    (k.taking text room).flushFails = k.flushFails := rfl

theorem taking_taking (k : LineSink) (text text' : String) (room room' : Option Nat) :
    (k.taking text room).taking text' room' = k.taking (text ++ text') room' := by
  simp [taking, String.append_assoc]

theorem taking_empty (k : LineSink) : k.taking "" k.room = k := by
  simp [taking]

variable {k : LineSink}

theorem flush_of_not_failing (h : k.flushFails = false) : Sink.flush k = (.ok (), k) := by
  simp [Sink.flush, LineSink.flush, h]

theorem write_line_of_unlimited (h : k.room = none) (v : UInt8) :
    Sink.write k (printedLine v) = (.ok (), k.taking (printedLine v) none) := by
  simp only [Sink.write, LineSink.write, h, taking]

/-- A limited sink takes as many lines of a text as it has room for, and what is left is refused. -/
theorem write_of_room {text : String} {ls : List (List Char)} (ht : HasLines text ls) {n : Nat}
    (h : k.room = some n) :
    Sink.write k text = (if ls.length ≤ n then .ok () else .error fullReason,
      k.taking (String.ofList (joinLines (ls.take n))) (some (n - ls.length))) := by
  have taken : takeLines n text.toList = joinLines (ls.take n) := by
    rw [ht.toList_eq, takeLines_joinLines ht.inline]
  have dropped : dropLines n text.toList = [] ↔ ls.length ≤ n := by
    rw [ht.toList_eq, dropLines_joinLines ht.inline, joinLines_eq_nil_iff, List.drop_eq_nil_iff]
  have count : (joinLines (ls.take n)).count '\n' = min n ls.length := by
    rw [← List.length_take, ← (ht.take n).count_eq, String.toList_ofList]
  have left : n - min n ls.length = n - ls.length := by omega
  simp only [Sink.write, LineSink.write, h, taken, dropped, count, left, taking]

theorem write_line_of_room {n : Nat} (h : k.room = some (n + 1)) (v : UInt8) :
    Sink.write k (printedLine v) = (.ok (), k.taking (printedLine v) (some n)) := by
  have whole := (hasLines_printedLine v).ofList_eq
  rw [write_of_room (hasLines_printedLine v) h]
  simpa [numerals] using congrArg (fun t => k.taking t (some n)) whole

theorem write_line_of_full (h : k.room = some 0) (v : UInt8) :
    Sink.write k (printedLine v) = (.error fullReason, k) := by
  rw [write_of_room (hasLines_printedLine v) h]
  simpa [numerals, h] using k.taking_empty

/-! ## Deliveries -/

theorem deliver_of_unlimited (h : k.room = none) (vs : List UInt8) :
    deliver vs k = (.ok (), k.taking (printedText vs) none) := by
  induction vs generalizing k with
  | nil =>
    rw [deliver_nil, printedText_nil, ← h, taking_empty]
  | cons v vs ih =>
    rw [deliver_of_accepted (write_line_of_unlimited h v), ih rfl, taking_taking, printedText_cons]

/-- A limited sink takes as many lines as it has room for. -/
theorem deliver_of_room {n : Nat} (h : k.room = some n) (vs : List UInt8) :
    deliver vs k =
      (if vs.length ≤ n then .ok () else .error fullReason,
        k.taking (printedText (vs.take n)) (some (n - vs.length))) := by
  induction vs generalizing k n with
  | nil =>
    simp only [deliver_nil, List.length_nil, Nat.zero_le, if_true, List.take_nil,
      printedText_nil, Nat.sub_zero, ← h, taking_empty]
  | cons v vs ih =>
    cases n with
    | zero =>
      rw [deliver_of_refused (write_line_of_full h v), if_neg (by simp)]
      simp only [List.take_zero, printedText_nil, Nat.zero_sub, ← h, taking_empty]
    | succ n =>
      rw [deliver_of_accepted (write_line_of_room h v), ih rfl, taking_taking, List.take_succ_cons,
        printedText_cons, List.length_cons, Nat.add_sub_add_right]
      simp only [Nat.add_le_add_iff_right]

/-- A limited sink that takes some lines and refuses the next one had room for exactly those. -/
theorem length_eq_of_refused {n : Nat} (h : k.room = some n) {us : List UInt8} {k₁ k' : LineSink}
    (taken : deliver us k = (.ok (), k₁)) {v : UInt8} {reason : String}
    (refused : Sink.write k₁ (printedLine v) = (.error reason, k')) :
    us.length = n := by
  rw [deliver_of_room h] at taken
  obtain ⟨fits, rfl⟩ := Prod.mk.inj taken
  have le : us.length ≤ n := by
    by_cases le : us.length ≤ n
    · exact le
    · rw [if_neg le] at fits
      exact absurd fits (by simp)
  rcases hd : n - us.length with _ | d
  · omega
  · have room := write_line_of_room (k := k.taking (printedText (us.take n)) (some (n - us.length)))
      (by rw [room_taking, hd]) v
    rw [room] at refused
    simp at refused

/-- A run ends where the state does if there is room for all that it prints. -/
theorem run_of_taken {m : Machine} {w : Walk} (hk : k.flushFails = false)
    (h : m.state.Finishes w) {text : String} {room : Option Nat}
    (hd : deliver w.printed k = (.ok (), k.taking text room)) :
    ∃ o, m.run k = some o ∧ o.EndsIn w.result (m.withState w.state) (k.taking text room) := by
  have flushed : Sink.flush (k.taking text room) = (.ok (), k.taking text room) :=
    flush_of_not_failing hk
  obtain ⟨o, ho, hr, hm, hs⟩ := Machine.run_of_delivered h hd (by rw [flushed])
  rw [flushed, or_self] at hs
  exact ⟨o, ho, hr, hm, hs⟩

end LineSink

end ByteMachine
