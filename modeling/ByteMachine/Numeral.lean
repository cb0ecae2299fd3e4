/-!
# Numerals

Positional numerals whose digits are `0` to `9` and then the letters. A numeral is written with the
fewest digits, or filled up with zeros to a width, its letters in upper case. It is read with
letters of either case, with any number of leading zeros and with at most one plus sign in front;
the value that is read is a natural number without a bound, so a caller that has room for less
compares before it narrows.
-/
namespace ByteMachine.Numeral

/-! ## Writing -/

/-- The shortest numeral of a number. -/
def digits (base n : Nat) : List Char := (Nat.toDigits base n).map Char.toUpper

/-- The shortest numeral, with zeros in front of it up to the width. -/
def padded (base width n : Nat) : List Char :=
  List.replicate (width - (digits base n).length) '0' ++ digits base n

/-- The decimal numeral of a number. -/
def decimal (n : Nat) : String := String.ofList (digits 10 n)

/-- The hexadecimal numeral of a number, at least `width` digits long. -/
def hex (width n : Nat) : String := String.ofList (padded 16 width n)

/-- The binary numeral of a number, at least `width` digits long. -/
def binary (width n : Nat) : String := String.ofList (padded 2 width n)

@[simp] theorem toList_decimal (n : Nat) : (decimal n).toList = digits 10 n :=
  String.toList_ofList

@[simp] theorem toList_hex (width n : Nat) : (hex width n).toList = padded 16 width n :=
  String.toList_ofList

@[simp] theorem toList_binary (width n : Nat) : (binary width n).toList = padded 2 width n :=
  String.toList_ofList

@[simp] theorem length_digits (base n : Nat) :
    (digits base n).length = (Nat.toDigits base n).length := by
  simp [digits]

theorem toUpper_of_isDigit {c : Char} (h : c.isDigit = true) : c.toUpper = c := by
  have hc : ¬('a'.val ≤ c.val ∧ c.val ≤ 'z'.val) := by
    rintro ⟨ha, -⟩
    have h9 : c.val ≤ '9'.val := by simp [Char.isDigit] at h; exact h.2
    exact absurd (UInt32.le_trans ha h9) (by decide)
  exact dif_neg hc

/-- Up to base ten there are no letters, so nothing is put into upper case. -/
theorem digits_of_le_ten {base : Nat} (h0 : 0 < base) (h10 : base ≤ 10) (n : Nat) :
    digits base n = Nat.toDigits base n := by
  have upper : ∀ c ∈ Nat.toDigits base n, c.toUpper = c := fun c hc =>
    toUpper_of_isDigit (Nat.isDigit_of_mem_toDigits h0 h10 hc)
  rw [digits, List.map_congr_left upper, List.map_id']

theorem digits_ne_nil (base n : Nat) : digits base n ≠ [] := by
  simp [digits, Nat.toDigits_ne_nil]

theorem length_padded (base width n : Nat) :
    (padded base width n).length = max width (digits base n).length := by
  simp only [padded, List.length_append, List.length_replicate]
  omega

/-! ## Reading -/

/-- The value of a digit of the base. -/
def digit? (base : Nat) (c : Char) : Option Nat :=
  let value :=
    if c.isDigit then c.toNat - '0'.toNat
    else if c.isLower then c.toNat - 'a'.toNat + 10
    else if c.isUpper then c.toNat - 'A'.toNat + 10
    else base
  if value < base then some value else none

/-- The value of a digit sequence read after a number. -/
def valueFrom? (base : Nat) (value : Nat) : List Char → Option Nat
  | [] => some value
  | c :: cs =>
    match digit? base c with
    | some d => valueFrom? base (base * value + d) cs
    | none => none

/-- The value of a sequence of at least one digit. -/
def value? (base : Nat) : List Char → Option Nat
  | [] => none
  | c :: cs => valueFrom? base 0 (c :: cs)

/-- The value of a numeral that may have one plus sign in front. -/
def read? (base : Nat) : List Char → Option Nat
  | '+' :: cs => value? base cs
  | cs => value? base cs

@[simp] theorem valueFrom?_nil (base value : Nat) : valueFrom? base value [] = some value := rfl

theorem valueFrom?_cons (base value : Nat) (c : Char) (cs : List Char) :
    valueFrom? base value (c :: cs) =
      (digit? base c).bind fun d => valueFrom? base (base * value + d) cs := by
  cases h : digit? base c <;> simp [valueFrom?, h]

/-- Reading in two parts: the second part goes on from the value of the first. -/
theorem valueFrom?_append (base value : Nat) (cs ds : List Char) :
    valueFrom? base value (cs ++ ds) =
      (valueFrom? base value cs).bind fun v => valueFrom? base v ds := by
  induction cs generalizing value with
  | nil => rfl
  | cons c cs ih => simp [valueFrom?_cons, ih, Option.bind_assoc]

/-- Leading zeros do not change the value. -/
theorem valueFrom?_replicate_zero {base : Nat} (hb : 0 < base) (count : Nat) (cs : List Char) :
    valueFrom? base 0 (List.replicate count '0' ++ cs) = valueFrom? base 0 cs := by
  have hz : digit? base '0' = some 0 := by simp [digit?, hb]
  induction count with
  | zero => rfl
  | succ count ih => simp [List.replicate_succ, valueFrom?_cons, hz, ih]

@[simp] theorem value?_nil (base : Nat) : value? base [] = none := rfl

theorem value?_of_ne_nil {base : Nat} {cs : List Char} (h : cs ≠ []) :
    value? base cs = valueFrom? base 0 cs := by
  cases cs with
  | nil => contradiction
  | cons c cs => rfl

@[simp] theorem read?_plus (base : Nat) (cs : List Char) :
    read? base ('+' :: cs) = value? base cs := rfl

/-! ## Reading back -/

/-- A digit that is written is read as its value. -/
theorem digit?_toUpper_digitChar {base d : Nat} (hb : base ≤ 16) (hd : d < base) :
    digit? base d.digitChar.toUpper = some d := by
  have written : ∀ d < 16, ∀ base ≤ 16, d < base → digit? base d.digitChar.toUpper = some d := by
    decide
  exact written d (by omega) base hb hd

/-- The shortest numeral is read as the number that it was written for. -/
theorem valueFrom?_digits {base : Nat} (h1 : 1 < base) (hb : base ≤ 16) (n : Nat) :
    valueFrom? base 0 (digits base n) = some n := by
  induction n using Nat.strongRecOn with
  | ind n ih =>
    rw [digits, Nat.toDigits_eq_if h1]
    split
    case isTrue h => simp [valueFrom?_cons, digit?_toUpper_digitChar hb h]
    case isFalse h =>
      have smaller : n / base < n := Nat.div_lt_self (by omega) h1
      have last : n % base < base := Nat.mod_lt _ (by omega)
      have rest := ih (n / base) smaller
      rw [digits] at rest
      simp [valueFrom?_append, rest, valueFrom?_cons, digit?_toUpper_digitChar hb last,
        Nat.div_add_mod]

theorem value?_digits {base : Nat} (h1 : 1 < base) (hb : base ≤ 16) (n : Nat) :
    value? base (digits base n) = some n := by
  rw [value?_of_ne_nil (digits_ne_nil base n), valueFrom?_digits h1 hb]

/-- Filling a numeral up with zeros does not change what it is read as. -/
theorem value?_padded {base : Nat} (h1 : 1 < base) (hb : base ≤ 16) (width n : Nat) :
    value? base (padded base width n) = some n := by
  have h : padded base width n ≠ [] := by simp [padded, digits_ne_nil]
  rw [value?_of_ne_nil h, padded, valueFrom?_replicate_zero (by omega), valueFrom?_digits h1 hb]

/-- Different numbers have different numerals. -/
theorem digits_injective {base : Nat} (h1 : 1 < base) (hb : base ≤ 16) {m n : Nat}
    (h : digits base m = digits base n) : m = n := by
  have hm := value?_digits h1 hb m
  rw [h, value?_digits h1 hb n] at hm
  exact (Option.some.inj hm).symm

theorem padded_injective {base width : Nat} (h1 : 1 < base) (hb : base ≤ 16) {m n : Nat}
    (h : padded base width m = padded base width n) : m = n := by
  have hm := value?_padded h1 hb width m
  rw [h, value?_padded h1 hb width n] at hm
  exact (Option.some.inj hm).symm

end ByteMachine.Numeral
