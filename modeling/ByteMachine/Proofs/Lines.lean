import Mathlib.Data.List.Induction
import ByteMachine.Sink

/-!
# Lines

Text that comes in whole lines is told by its lines: splitting it at the line ends gives them back
with nothing behind the last one, and to take so many lines of it is to take so many from the list.
-/
namespace ByteMachine

/-- Lines with a line end behind each of them. -/
def joinLines (ls : List (List Char)) : List Char := ls.flatMap (· ++ ['\n'])

@[simp] theorem joinLines_nil : joinLines [] = [] := rfl

theorem joinLines_cons (l : List Char) (ls : List (List Char)) :
    joinLines (l :: ls) = l ++ '\n' :: joinLines ls := by
  simp [joinLines]

theorem joinLines_eq_nil_iff {ls : List (List Char)} : joinLines ls = [] ↔ ls = [] := by
  cases ls <;> simp [joinLines_cons]

theorem joinLines_append (ls ls' : List (List Char)) :
    joinLines (ls ++ ls') = joinLines ls ++ joinLines ls' :=
  List.flatMap_append

/-- Splitting at the line ends gives lines back, and then what is behind the last of them. -/
theorem splitOn_joinLines_append {ls : List (List Char)} (inline : ∀ l ∈ ls, '\n' ∉ l)
    {rest : List Char} (hr : '\n' ∉ rest) :
    (joinLines ls ++ rest).splitOn '\n' = ls ++ [rest] := by
  induction ls with
  | nil => exact List.splitOn_eq_singleton hr
  | cons l ls ih =>
    rw [List.forall_mem_cons] at inline
    rw [joinLines_cons, List.append_assoc, List.cons_append,
      List.splitOn_append_cons_self_of_not_mem inline.1, ih inline.2, List.cons_append]

/-- The text comes in the given lines, each of which has its line end. -/
structure HasLines (text : String) (ls : List (List Char)) : Prop where
  inline : ∀ l ∈ ls, '\n' ∉ l
  toList_eq : text.toList = joinLines ls

theorem hasLines_empty : HasLines "" [] := ⟨by simp, rfl⟩

theorem hasLines_ofList {ls : List (List Char)} (inline : ∀ l ∈ ls, '\n' ∉ l) :
    HasLines (String.ofList (joinLines ls)) ls :=
  ⟨inline, String.toList_ofList⟩

/-- The line of a text without line ends. -/
theorem hasLines_line {l : List Char} (h : '\n' ∉ l) : HasLines (String.ofList l ++ "\n") [l] where
  inline := by simpa using h
  toList_eq := by simp [joinLines_cons]

/-- Every text is lines and what is behind the last line end. -/
theorem exists_joinLines_append (text : List Char) :
    ∃ ls rest, (∀ l ∈ ls, '\n' ∉ l) ∧ '\n' ∉ rest ∧ text = joinLines ls ++ rest := by
  induction text using List.reverseRecOn with
  | nil => exact ⟨[], [], by simp, by simp, rfl⟩
  | append_singleton text c ih =>
    obtain ⟨ls, rest, inline, hr, rfl⟩ := ih
    by_cases hc : c = '\n'
    · subst hc
      exact ⟨ls ++ [rest], [], List.forall_mem_append.2 ⟨inline, List.forall_mem_singleton.2 hr⟩,
        by simp, by simp [joinLines]⟩
    · exact ⟨ls, rest ++ [c], inline, by simp [hr, Ne.symm hc], List.append_assoc ..⟩

/-- Behind a text with any line ends in it one more line end makes lines of the whole. -/
theorem exists_joinLines (cs : List Char) :
    ∃ ls, (∀ l ∈ ls, '\n' ∉ l) ∧ cs ++ ['\n'] = joinLines ls := by
  obtain ⟨ls, rest, inline, hr, rfl⟩ := exists_joinLines_append cs
  exact ⟨ls ++ [rest], List.forall_mem_append.2 ⟨inline, List.forall_mem_singleton.2 hr⟩,
    by simp [joinLines]⟩

theorem count_joinLines {ls : List (List Char)} (inline : ∀ l ∈ ls, '\n' ∉ l) :
    (joinLines ls).count '\n' = ls.length := by
  induction ls with
  | nil => rfl
  | cons l ls ih =>
    rw [List.forall_mem_cons] at inline
    rw [joinLines_cons, List.count_append, List.count_eq_zero.2 inline.1, List.count_cons_self,
      ih inline.2, List.length_cons, Nat.zero_add]

/-- There is one piece more than there are line ends. -/
theorem length_splitOn_newline (text : List Char) :
    (text.splitOn '\n').length = text.count '\n' + 1 := by
  obtain ⟨ls, rest, inline, hr, rfl⟩ := exists_joinLines_append text
  rw [splitOn_joinLines_append inline hr, List.count_append, count_joinLines inline,
    List.count_eq_zero.2 hr, List.length_append, List.length_singleton, Nat.add_zero]

theorem exists_hasLines (text : String) : ∃ ls, HasLines (text ++ "\n") ls := by
  obtain ⟨ls, inline, joined⟩ := exists_joinLines text.toList
  exact ⟨ls, inline, by simpa using joined⟩

namespace HasLines

variable {text text' : String} {ls ls' : List (List Char)}

theorem append (h : HasLines text ls) (h' : HasLines text' ls') :
    HasLines (text ++ text') (ls ++ ls') where
  inline l hl := (List.mem_append.1 hl).elim (h.inline l) (h'.inline l)
  toList_eq := by rw [String.toList_append, h.toList_eq, h'.toList_eq, joinLines_append]

theorem ofList_eq (h : HasLines text ls) : String.ofList (joinLines ls) = text := by
  rw [← h.toList_eq, String.ofList_toList]

theorem count_eq (h : HasLines text ls) : text.toList.count '\n' = ls.length := by
  rw [h.toList_eq, count_joinLines h.inline]

/-- The lines can be read off the text, behind whose last line end there is nothing. -/
theorem splitOn_eq (h : HasLines text ls) : text.toList.splitOn '\n' = ls ++ [[]] := by
  have split := splitOn_joinLines_append h.inline (List.not_mem_nil (a := '\n'))
  rwa [List.append_nil, ← h.toList_eq] at split

theorem unique (h : HasLines text ls) (h' : HasLines text ls') : ls = ls' :=
  List.append_cancel_right (h.splitOn_eq.symm.trans h'.splitOn_eq)

theorem take (h : HasLines text ls) (n : Nat) :
    HasLines (String.ofList (joinLines (ls.take n))) (ls.take n) :=
  hasLines_ofList fun l hl => h.inline l (List.mem_of_mem_take hl)

end HasLines

/-! ## Taking lines -/

theorem takeLines_append {cs : List Char} (h : '\n' ∉ cs) (n : Nat) (rest : List Char) :
    takeLines (n + 1) (cs ++ '\n' :: rest) = cs ++ '\n' :: takeLines n rest := by
  induction cs with
  | nil => rfl
  | cons c cs ih =>
    rw [List.mem_cons, not_or] at h
    have hc : c ≠ '\n' := fun e => h.1 e.symm
    rw [List.cons_append, takeLines, if_neg hc, ih h.2, List.cons_append]

/-- Of whole lines so many are taken as are asked for. -/
theorem takeLines_joinLines {ls : List (List Char)} (inline : ∀ l ∈ ls, '\n' ∉ l) (n : Nat) :
    takeLines n (joinLines ls) = joinLines (ls.take n) := by
  induction ls generalizing n with
  | nil => cases n <;> rfl
  | cons l ls ih =>
    rw [List.forall_mem_cons] at inline
    cases n with
    | zero => rw [takeLines, List.take_zero, joinLines_nil]
    | succ n =>
      rw [joinLines_cons, takeLines_append inline.1, ih inline.2, List.take_succ_cons,
        joinLines_cons]

/-- What is left behind so many lines is the lines behind them. -/
theorem dropLines_joinLines {ls : List (List Char)} (inline : ∀ l ∈ ls, '\n' ∉ l) (n : Nat) :
    dropLines n (joinLines ls) = joinLines (ls.drop n) := by
  have whole := takeLines_append_dropLines n (joinLines ls)
  rw [takeLines_joinLines inline] at whole
  have split := joinLines_append (ls.take n) (ls.drop n)
  rw [List.take_append_drop] at split
  exact List.append_cancel_left (whole.trans split)

end ByteMachine
