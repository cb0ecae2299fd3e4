import ByteMachine.Fault

/-!
# Memory

Memory has one cell of a byte for each of the 256 addresses, so an address is a byte too and none
is out of range. It is seen through `read`: two memories that read the same everywhere are equal
(`Memory.ext_read`), and each operation says what is read after it.
-/
namespace ByteMachine

/-- A byte for every address. -/
structure Memory where
  cells : Vector UInt8 256
  deriving DecidableEq

namespace Memory

/-- The number of cells. -/
def size : Nat := 256

/-- The content of the cell at an address. -/
def read (m : Memory) (a : UInt8) : UInt8 := m.cells[a.toFin]

/-- The memory with another content in the cell at an address. -/
def write (m : Memory) (a v : UInt8) : Memory := ⟨m.cells.set a.toFin v a.toFin.isLt⟩

/-- The memory with the given content at each address. -/
def ofFn (f : UInt8 → UInt8) : Memory := ⟨Vector.ofFn fun i => f (UInt8.ofFin i)⟩

theorem ext_read {m n : Memory} (h : ∀ a, m.read a = n.read a) : m = n := by
  obtain ⟨m⟩ := m
  obtain ⟨n⟩ := n
  congr
  refine Vector.ext fun i hi => ?_
  simpa [read] using h (UInt8.ofFin ⟨i, hi⟩)

@[simp] theorem read_ofFn (f : UInt8 → UInt8) (a : UInt8) : (ofFn f).read a = f a := by
  simp [read, ofFn]

theorem read_write (m : Memory) (a v b : UInt8) :
    (m.write a v).read b = if a = b then v else m.read b := by
  by_cases h : a = b
  · subst h
    simp [read, write]
  · have h' : a.toNat ≠ b.toNat := fun e => h (UInt8.toNat_inj.1 e)
    simp [read, write, h, h']

@[simp] theorem read_write_self (m : Memory) (a v : UInt8) : (m.write a v).read a = v := by
  simp [read_write]

theorem read_write_of_ne (m : Memory) {a b : UInt8} (v : UInt8) (h : a ≠ b) :
    (m.write a v).read b = m.read b := by
  simp [read_write, h]

/-! ## Whole images -/

/-- Memory in which every cell is zero. -/
def zero : Memory := ofFn fun _ => 0

@[simp] theorem read_zero (a : UInt8) : zero.read a = 0 := read_ofFn _ a

/-- The memory with the bytes of an image at the addresses from 0 on, the rest as it was. -/
def overlay (m : Memory) (image : List UInt8) : Memory :=
  let bytes := image.toArray
  ofFn fun a => bytes[a.toNat]?.getD (m.read a)

@[simp] theorem read_overlay (m : Memory) (image : List UInt8) (a : UInt8) :
    (m.overlay image).read a = image[a.toNat]?.getD (m.read a) := by
  simp [overlay]

/-- Copies an image to the addresses from 0 on. An image with more bytes than there are cells is
refused as a whole. -/
def copyIn (m : Memory) (image : List UInt8) : Except Fault Memory :=
  if image.length ≤ size then .ok (m.overlay image)
  else .error (.programTooLarge image.length size)

theorem copyIn_of_le (m : Memory) {image : List UInt8} (h : image.length ≤ size) :
    m.copyIn image = .ok (m.overlay image) := if_pos h

theorem copyIn_of_gt (m : Memory) {image : List UInt8} (h : size < image.length) :
    m.copyIn image = .error (.programTooLarge image.length size) := if_neg (Nat.not_le.2 h)

/-- Writes bytes to consecutive addresses; after the last address comes address 0 again. -/
def writeFrom (m : Memory) (a : UInt8) : List UInt8 → Memory
  | [] => m
  | v :: vs => (m.write a v).writeFrom (a + 1) vs

/-! ## Reading in bulk -/

/-- The contents of all cells in address order. -/
def toList (m : Memory) : List UInt8 := m.cells.toList

@[simp] theorem length_toList (m : Memory) : m.toList.length = size := by
  simp [toList, size]

/-- The contents of up to `count` cells from an address on, ending with the last cell. -/
def slice (m : Memory) (a : UInt8) (count : Nat) : List UInt8 :=
  (m.toList.drop a.toNat).take count

theorem length_slice (m : Memory) (a : UInt8) (count : Nat) :
    (m.slice a count).length = min count (size - a.toNat) := by
  simp [slice]

theorem getElem_toList (m : Memory) {i : Nat} (h : i < m.toList.length) :
    m.toList[i] = m.read (UInt8.ofNat i) := by
  have small : i < 256 := by simpa [size] using h
  have same : (UInt8.ofNat i).toFin.val = i := UInt8.toNat_ofNat_of_lt' small
  simp only [toList, read, Vector.getElem_toList, Fin.getElem_fin, same]

/-- A slice has the cells from an address on, up to the last one at most. -/
theorem slice_eq (m : Memory) (a : UInt8) (count : Nat) :
    m.slice a count = (List.range (min count (size - a.toNat))).map
      fun i => m.read (UInt8.ofNat (a.toNat + i)) := by
  refine List.ext_getElem (by simp [length_slice]) ?_
  intro i here there
  simp [slice, getElem_toList]

end Memory

end ByteMachine
