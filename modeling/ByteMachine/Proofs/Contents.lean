import Mathlib.Data.List.Induction
import ByteMachine.Memory

/-!
# The content of memory

Memory has a byte for every address whatever was done to it. A cell holds what it was given by the
last change that covers it, and zero if there was none: a write covers one cell, an image the cells
from the first one on for which it has bytes, a clearing all of them. An image that is too large is
refused and covers nothing (`MemoryChange.cells_hold_last_given`). A slice has the cells from an
address on, up to the last one at most; no number of cells is so large that its end wraps around.
-/
namespace ByteMachine

/-- A change of memory. -/
inductive MemoryChange where
  /-- Another content for one cell. -/
  | write (a v : UInt8)
  /-- The bytes of an image for the cells from the first one on. -/
  | copyIn (image : List UInt8)
  /-- Zero for every cell. -/
  | clear
  deriving DecidableEq, Repr

namespace MemoryChange

/-- The change of a memory: how it ends and what it leaves behind. -/
def perform (c : MemoryChange) (m : Memory) : Except Fault Unit × Memory :=
  match c with
  | write a v => (.ok (), m.write a v)
  | copyIn image =>
    match m.copyIn image with
    | .ok m' => (.ok (), m')
    | .error fault => (.error fault, m)
  | clear => (.ok (), .zero)

/-- The memory after changes that are made one after the other, whether or not they succeed. -/
def after (changes : List MemoryChange) (m : Memory) : Memory :=
  changes.foldl (fun m c => (c.perform m).2) m

/-- The change gives the cell at an address a content, whatever the cell held before. -/
inductive Gives : MemoryChange → UInt8 → UInt8 → Prop where
  | write (a v : UInt8) : Gives (.write a v) a v
  | copyIn {image : List UInt8} {a : UInt8} (fits : image.length ≤ 256)
      (inside : a.toNat < image.length) : Gives (.copyIn image) a image[a.toNat]
  | clear (a : UInt8) : Gives .clear a 0

/-- The change gives the cell at an address some content. -/
def Covers (c : MemoryChange) (a : UInt8) : Prop := ∃ v, c.Gives a v

/-- What the cell at an address is given last by changes that are made one after the other, or zero
if none of them covers it. -/
inductive LastGiven (changes : List MemoryChange) (a : UInt8) : UInt8 → Prop where
  | given {before behind : List MemoryChange} {c : MemoryChange} {v : UInt8}
      (split : changes = before ++ c :: behind) (gives : c.Gives a v)
      (last : ∀ d ∈ behind, ¬d.Covers a) : LastGiven changes a v
  | never (none : ∀ c ∈ changes, ¬c.Covers a) : LastGiven changes a 0

variable {c : MemoryChange} {changes behind : List MemoryChange} {image : List UInt8}
  {a b v : UInt8} {m : Memory}

/-! ## One change -/

@[simp] theorem covers_write_iff : (write b v).Covers a ↔ b = a := by
  constructor
  · rintro ⟨_, ⟨⟩⟩
    rfl
  · rintro rfl
    exact ⟨v, .write b v⟩

@[simp] theorem covers_copyIn_iff :
    (copyIn image).Covers a ↔ image.length ≤ 256 ∧ a.toNat < image.length := by
  constructor
  · rintro ⟨_, gives⟩
    cases gives with
    | copyIn fits inside => exact ⟨fits, inside⟩
  · rintro ⟨fits, inside⟩
    exact ⟨_, .copyIn fits inside⟩

@[simp] theorem covers_clear : clear.Covers a := ⟨0, .clear a⟩

theorem perform_copyIn_of_le (fits : image.length ≤ 256) (m : Memory) :
    perform (copyIn image) m = (.ok (), m.overlay image) := by
  rw [perform, Memory.copyIn_of_le m fits]

theorem perform_copyIn_of_gt (large : 256 < image.length) (m : Memory) :
    perform (copyIn image) m = (.error (.programTooLarge image.length 256), m) := by
  rw [perform, Memory.copyIn_of_gt m large]
  rfl

theorem read_perform_of_gives (h : c.Gives a v) (m : Memory) : (c.perform m).2.read a = v := by
  cases h with
  | write a v => exact m.read_write_self a v
  | copyIn fits inside =>
    rw [perform_copyIn_of_le fits, Memory.read_overlay, List.getElem?_eq_getElem inside,
      Option.getD_some]
  | clear a => exact Memory.read_zero a

/-- A change leaves the cells alone that it does not cover. -/
theorem read_perform_of_not_covers (h : ¬c.Covers a) (m : Memory) :
    (c.perform m).2.read a = m.read a := by
  cases c with
  | write b v =>
    rw [covers_write_iff] at h
    exact m.read_write_of_ne v h
  | copyIn image =>
    rw [covers_copyIn_iff, not_and, Nat.not_lt] at h
    by_cases fits : image.length ≤ 256
    · rw [perform_copyIn_of_le fits, Memory.read_overlay, List.getElem?_eq_none (h fits),
        Option.getD_none]
    · rw [perform_copyIn_of_gt (Nat.not_le.1 fits)]
  | clear => exact absurd covers_clear h

/-! ## Sequences of changes -/

theorem read_after_of_not_covered (h : ∀ c ∈ changes, ¬c.Covers a) (m : Memory) :
    (after changes m).read a = m.read a := by
  induction changes generalizing m with
  | nil => rfl
  | cons c changes ih =>
    rw [List.forall_mem_cons] at h
    exact (ih h.2 _).trans (read_perform_of_not_covers h.1 m)

theorem read_after_of_lastGiven (h : LastGiven changes a v) :
    (after changes .zero).read a = v := by
  cases h with
  | @given before behind c _ split gives last =>
    rw [split, after, List.foldl_append, List.foldl_cons]
    exact (read_after_of_not_covered last _).trans (read_perform_of_gives gives _)
  | never none => exact (read_after_of_not_covered none _).trans (Memory.read_zero a)

/-- Some change is the last one that covers the cell, unless none does. -/
theorem exists_lastGiven (changes : List MemoryChange) (a : UInt8) :
    ∃ v, LastGiven changes a v := by
  induction changes using List.reverseRecOn with
  | nil => exact ⟨0, .never (by simp)⟩
  | append_singleton changes c ih =>
    by_cases covers : c.Covers a
    · obtain ⟨v, gives⟩ := covers
      exact ⟨v, .given rfl gives (by simp)⟩
    obtain ⟨v, h⟩ := ih
    cases h with
    | @given before behind d _ split gives last =>
      have split' : changes ++ [c] = before ++ d :: (behind ++ [c]) := by simp [split]
      refine ⟨v, .given split' gives ?_⟩
      exact List.forall_mem_append.2 ⟨last, List.forall_mem_singleton.2 covers⟩
    | never none =>
      exact ⟨0, .never (List.forall_mem_append.2 ⟨none, List.forall_mem_singleton.2 covers⟩)⟩

theorem read_after_eq_iff : (after changes .zero).read a = v ↔ LastGiven changes a v := by
  refine ⟨?_, read_after_of_lastGiven⟩
  rintro rfl
  obtain ⟨v, h⟩ := exists_lastGiven changes a
  rwa [read_after_of_lastGiven h]

end MemoryChange

/-! ## The end of a slice -/

namespace Memory

/-- The address behind the last cell of a slice as words of 64 bits give it. A sum that does not fit
a word is the largest word, and the end of memory is the limit. -/
def sliceEnd (a : UInt8) (count : UInt64) : UInt64 :=
  let sum := a.toUInt64 + count
  min (if sum < count then 0xFFFFFFFFFFFFFFFF else sum) 256

theorem toNat_sliceEnd (a : UInt8) (count : UInt64) :
    (sliceEnd a count).toNat = min (a.toNat + count.toNat) size := by
  have ha : a.toNat < 256 := a.toNat_lt
  have hc : count.toNat < 2 ^ 64 := count.toNat_lt
  have hsum : (a.toUInt64 + count).toNat = (a.toNat + count.toNat) % 2 ^ 64 := by
    rw [UInt64.toNat_add, UInt8.toNat_toUInt64]
  have limit (w : UInt64) : (min w 256).toNat = min w.toNat 256 := by
    rw [UInt64.toNat_min]
    rfl
  rw [sliceEnd, limit]
  by_cases wraps : a.toUInt64 + count < count
  · have wrapped := UInt64.lt_iff_toNat_lt.1 wraps
    rw [if_pos wraps]
    simp only [size, UInt64.reduceToNat]
    omega
  · have fits := mt UInt64.lt_iff_toNat_lt.2 wraps
    rw [if_neg wraps]
    simp only [size]
    omega

/-- To end a slice where words say makes no difference. -/
theorem slice_eq_of_sliceEnd (m : Memory) (a : UInt8) (count : UInt64) :
    m.slice a count.toNat = (m.toList.take (sliceEnd a count).toNat).drop a.toNat := by
  have cells : min (a.toNat + count.toNat) size - a.toNat =
      min count.toNat (m.toList.drop a.toNat).length := by
    rw [List.length_drop, length_toList]
    omega
  rw [toNat_sliceEnd, slice, List.drop_take, cells, ← List.take_eq_take_min]

end Memory

namespace MemoryChange

/-- Every cell holds what it was given last. After any changes of a memory that was zero a cell holds
the byte of the last one that covers it, and zero if none does. An image with more than 256 bytes is
refused with its size, which changes and covers nothing, and any other is accepted and leaves the
cells behind its end as they were. A slice of the memory has the cells from its address on, as many
as are asked for or as there are up to the last one, and it ends where words say that it ends. -/
theorem cells_hold_last_given (changes : List MemoryChange) :
    let m := after changes .zero
    (∀ a v, m.read a = v ↔ LastGiven changes a v) ∧
    (∀ image : List UInt8, 256 < image.length →
      perform (copyIn image) m = (.error (.programTooLarge image.length 256), m) ∧
        ∀ a, ¬(copyIn image).Covers a) ∧
    (∀ image : List UInt8, image.length ≤ 256 →
      (perform (copyIn image) m).1 = .ok () ∧
        ∀ a : UInt8, image.length ≤ a.toNat → (perform (copyIn image) m).2.read a = m.read a) ∧
    ∀ (a : UInt8) (count : UInt64),
      m.slice a count.toNat = (List.range (min count.toNat (256 - a.toNat))).map
        (fun i => m.read (UInt8.ofNat (a.toNat + i))) ∧
      m.slice a count.toNat = (m.toList.take (Memory.sliceEnd a count).toNat).drop a.toNat := by
  intro m
  refine ⟨fun a v => read_after_eq_iff, ?_, ?_, ?_⟩
  · intro image large
    refine ⟨perform_copyIn_of_gt large m, fun a covers => ?_⟩
    exact absurd (covers_copyIn_iff.1 covers).1 (Nat.not_le.2 large)
  · intro image fits
    refine ⟨congrArg Prod.fst (perform_copyIn_of_le fits m), fun a behind => ?_⟩
    refine read_perform_of_not_covers ?_ m
    rw [covers_copyIn_iff]
    omega
  · intro a count
    exact ⟨m.slice_eq a count.toNat, m.slice_eq_of_sliceEnd a count⟩

/-- An image that is too large by one byte. -/
def tooLarge : List UInt8 := List.replicate 257 0xAA

/-- Two cells are written, an image covers one of them, and the image that is too large follows. -/
def writtenAndCovered : List MemoryChange :=
  [.write 0xFF 42, .write 1 7, .copyIn [1, 2, 3], .copyIn tooLarge]

/-- The first cell has its byte of the image, the last one what was written, and a slice from the
last cell but one ends there, however long it was to be. -/
theorem writtenAndCovered_cells :
    let m := after writtenAndCovered .zero
    m.read 1 = 2 ∧ m.read 0xFF = 42 ∧
    perform (.copyIn tooLarge) m = (.error (.programTooLarge 257 256), m) ∧
    (perform (.copyIn [5, 6]) m).2.read 0xFF = 42 ∧ m.slice 0xFE 0xFFFFFFFFFFFFFFFF = [0, 42] := by
  intro m
  obtain ⟨cells, refused, accepted, slices⟩ := cells_hold_last_given writtenAndCovered
  have length : tooLarge.length = 257 := List.length_replicate
  have first : LastGiven writtenAndCovered 1 2 := by
    have split : writtenAndCovered =
      [.write 0xFF 42, .write 1 7] ++ .copyIn [1, 2, 3] :: [.copyIn tooLarge] := rfl
    exact .given split (.copyIn (by decide) (by decide)) (by simp [length])
  have last : LastGiven writtenAndCovered 0xFF 42 := by
    have split : writtenAndCovered =
      [] ++ .write 0xFF 42 :: [.write 1 7, .copyIn [1, 2, 3], .copyIn tooLarge] := rfl
    exact .given split (.write 0xFF 42) (by simp [length])
  have lastButOne : LastGiven writtenAndCovered 0xFE 0 :=
    .never (by simp [writtenAndCovered, length])
  have written := (cells 0xFF 42).2 last
  have slice := (slices 0xFE 0xFFFFFFFFFFFFFFFF).1
  have two : min (0xFFFFFFFFFFFFFFFF : UInt64).toNat (256 - (0xFE : UInt8).toNat) = 2 := by decide
  refine ⟨(cells 1 2).2 first, written, ?_, ?_, slice.trans ?_⟩
  · rw [(refused tooLarge (by simp [length])).1, length]
  · rw [(accepted [5, 6] (by decide)).2 0xFF (by decide), written]
  · rw [two]
    change [m.read 0xFE, m.read 0xFF] = [0, 42]
    rw [(cells 0xFE 0).2 lastButOne, written]

end MemoryChange

end ByteMachine
