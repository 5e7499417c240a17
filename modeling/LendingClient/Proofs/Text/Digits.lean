import LendingClient.Text.Digits
import Mathlib.Data.List.Induction
import Mathlib.Data.Nat.Digits.Defs
import Mathlib.Tactic.Ring

/-!
# Numbers in digits

Decimal digits count by their places. A number that fits a width is written there in exactly that
many digits and read back from them, and among digits of one length the order of the characters, and
so that of their bytes, is the order of the numbers.
-/

namespace LendingClient.Text

/-- A digit has a number between those of the first and the last one. -/
theorem toNat_of_isDigit {c : Char} (h : c.isDigit = true) : 48 ≤ c.toNat ∧ c.toNat ≤ 57 := by
  simp only [Char.isDigit, Bool.and_eq_true, decide_eq_true_eq] at h
  exact h

/-- A digit is a character of the ASCII set. -/
theorem val_le_of_isDigit {c : Char} (h : c.isDigit = true) : c.val ≤ 127 := by
  simp only [Char.isDigit, Bool.and_eq_true, decide_eq_true_eq] at h
  exact UInt32.le_trans h.2 (by decide)

/-- Further digits move the ones before them up by as many places. -/
theorem valueOfDigits_append (front rest : List Char) :
    valueOfDigits (front ++ rest) =
      valueOfDigits front * 10 ^ rest.length + valueOfDigits rest := by
  induction rest using List.reverseRecOn with
  | nil => simp [valueOfDigits]
  | append_singleton rest c ih =>
    rw [← List.append_assoc, valueOfDigits_concat, valueOfDigits_concat, ih, List.length_append,
      List.length_singleton, pow_succ]
    ring

private theorem valueOfDigits_singleton (c : Char) : valueOfDigits [c] = c.toNat - '0'.toNat := by
  simp [valueOfDigits]

/-- The first digit counts by the number of those after it. -/
theorem valueOfDigits_cons (c : Char) (rest : List Char) :
    valueOfDigits (c :: rest) =
      (c.toNat - '0'.toNat) * 10 ^ rest.length + valueOfDigits rest := by
  rw [← List.singleton_append, valueOfDigits_append, valueOfDigits_singleton]

/-- Zeros stand for zero. -/
@[simp]
theorem valueOfDigits_zeros (count : Nat) : valueOfDigits (List.replicate count '0') = 0 := by
  induction count with
  | zero => rfl
  | succ count ih => simp [List.replicate_succ, valueOfDigits_cons, ih]

/-- Digits without one that is no digit stand for less than the next power of ten. -/
theorem valueOfDigits_lt_pow {chars : List Char} (h : ∀ c ∈ chars, c.isDigit = true) :
    valueOfDigits chars < 10 ^ chars.length := by
  induction chars with
  | nil => exact Nat.one_pos
  | cons c rest ih =>
    obtain ⟨hc, hrest⟩ := List.forall_mem_cons.mp h
    have hlater := ih hrest
    have hdigit : c.toNat - '0'.toNat ≤ 9 := Nat.sub_le_sub_right (toNat_of_isDigit hc).2 48
    have hplace : (c.toNat - '0'.toNat) * 10 ^ rest.length ≤ 9 * 10 ^ rest.length :=
      Nat.mul_le_mul_right _ hdigit
    rw [valueOfDigits_cons, List.length_cons, pow_succ]
    omega

/-- Digits stand for zero exactly if all of them are zeros. -/
theorem valueOfDigits_eq_zero_iff {chars : List Char} (h : ∀ c ∈ chars, c.isDigit = true) :
    valueOfDigits chars = 0 ↔ ∀ c ∈ chars, c = '0' := by
  induction chars with
  | nil => simp [valueOfDigits]
  | cons c rest ih =>
    obtain ⟨hc, hrest⟩ := List.forall_mem_cons.mp h
    have hplace : 10 ^ rest.length ≠ 0 := Nat.ne_of_gt (Nat.pow_pos (by decide))
    have hzero : c.toNat - '0'.toNat = 0 ↔ c = '0' := by
      have hcode := (toNat_of_isDigit hc).1
      have hcharacter : '0'.toNat = 48 := rfl
      rw [← Char.toNat_inj]
      omega
    rw [valueOfDigits_cons, Nat.add_eq_zero_iff, Nat.mul_eq_zero, or_iff_left hplace, hzero,
      ih hrest, List.forall_mem_cons]

/-- A number is written in digits. -/
theorem isDigit_of_mem_digits {value : Nat} {c : Char} (h : c ∈ digits value) :
    c.isDigit = true :=
  Nat.isDigit_of_mem_toDigits (by decide) (by decide) h

/-- Digits of a width are digits. -/
theorem isDigit_of_mem_digitsOfWidth {width value : Nat} {c : Char}
    (h : c ∈ digitsOfWidth width value) : c.isDigit = true := by
  rcases List.mem_append.mp h with hzero | hdigit
  · rw [List.eq_of_mem_replicate hzero]
    rfl
  · exact isDigit_of_mem_digits hdigit

/-- A number is read back from its digits. -/
@[simp]
theorem valueOfDigits_digits (value : Nat) : valueOfDigits (digits value) = value :=
  Nat.ofDigitChars_toDigits (by decide) (by decide)

/-- A number is read back from its digits, however wide they are made. -/
@[simp]
theorem valueOfDigits_digitsOfWidth (width value : Nat) :
    valueOfDigits (digitsOfWidth width value) = value := by
  unfold digitsOfWidth
  rw [valueOfDigits_append, valueOfDigits_zeros, valueOfDigits_digits, Nat.zero_mul, Nat.zero_add]

/-- A number that fits a width has exactly that many digits there. -/
theorem length_digitsOfWidth {width value : Nat} (hwidth : 0 < width)
    (hvalue : value < 10 ^ width) : (digitsOfWidth width value).length = width := by
  have hshortest : (digits value).length ≤ width :=
    (Nat.length_toDigits_le_iff (by decide) hwidth).mpr hvalue
  refine Nat.le_antisymm ?_ (le_length_digitsOfWidth width value)
  simp only [digitsOfWidth, List.length_append, List.length_replicate]
  omega

/-- A number has no more digits than any digits that stand for it. -/
theorem length_digits_valueOfDigits_le {chars : List Char}
    (hdigits : ∀ c ∈ chars, c.isDigit = true) (hne : chars ≠ []) :
    (digits (valueOfDigits chars)).length ≤ chars.length :=
  (Nat.length_toDigits_le_iff (by decide) (List.length_pos_iff.mpr hne)).mpr
    (valueOfDigits_lt_pow hdigits)

/-- Of two numbers in places the higher places decide, and the lower ones if those are the same. -/
theorem place_lt_iff {place first second rest other : Nat} (hrest : rest < place)
    (hother : other < place) :
    first * place + rest < second * place + other ↔
      first < second ∨ first = second ∧ rest < other := by
  rcases Nat.lt_trichotomy first second with hlt | rfl | hgt
  · have hplaces : (first + 1) * place ≤ second * place := Nat.mul_le_mul_right _ hlt
    rw [Nat.add_mul] at hplaces
    omega
  · omega
  · have hplaces : (second + 1) * place ≤ first * place := Nat.mul_le_mul_right _ hgt
    rw [Nat.add_mul] at hplaces
    omega

section Order

variable {first second : List Char} (hfirst : ∀ c ∈ first, c.isDigit = true)
  (hsecond : ∀ c ∈ second, c.isDigit = true) (hlength : first.length = second.length)
include hfirst hsecond hlength

/-- Digits of one length are in the order of the numbers that they stand for. -/
theorem digits_lt_iff : first < second ↔ valueOfDigits first < valueOfDigits second := by
  induction first generalizing second with
  | nil =>
    obtain rfl := List.length_eq_zero_iff.mp hlength.symm
    simp
  | cons c rest ih =>
    cases second with
    | nil => cases hlength
    | cons d other =>
      obtain ⟨hc, hrest⟩ := List.forall_mem_cons.mp hfirst
      obtain ⟨hd, hother⟩ := List.forall_mem_cons.mp hsecond
      have hlengths : rest.length = other.length := Nat.succ.inj hlength
      have hzero : '0'.toNat = 48 := rfl
      have hcode := toNat_of_isDigit hc
      have hcode' := toNat_of_isDigit hd
      have hlt : c < d ↔ c.toNat - '0'.toNat < d.toNat - '0'.toNat := by
        change c.toNat < d.toNat ↔ _
        omega
      have heq : c = d ↔ c.toNat - '0'.toNat = d.toNat - '0'.toNat := by
        rw [← Char.toNat_inj]
        omega
      have hsmall : valueOfDigits other < 10 ^ rest.length :=
        hlengths ▸ valueOfDigits_lt_pow hother
      rw [List.cons_lt_cons_iff, valueOfDigits_cons, valueOfDigits_cons, ← hlengths,
        place_lt_iff (valueOfDigits_lt_pow hrest) hsmall, ih hrest hother hlengths, hlt, heq]

/-- Digits of one length that stand for the same number are the same. -/
theorem digits_inj (hvalue : valueOfDigits first = valueOfDigits second) : first = second := by
  have hnot : ¬ first < second := fun h =>
    Nat.ne_of_lt ((digits_lt_iff hfirst hsecond hlength).mp h) hvalue
  have hnot' : ¬ second < first := fun h =>
    Nat.ne_of_gt ((digits_lt_iff hsecond hfirst hlength.symm).mp h) hvalue
  exact List.le_antisymm hnot' hnot

end Order

/-- Digits of a width that stand for a number. -/
structure Spells (width value : Nat) (chars : List Char) : Prop where
  length_eq : chars.length = width
  isDigit : ∀ c ∈ chars, c.isDigit = true
  value_eq : valueOfDigits chars = value

/-- A number that fits a width is spelled by its digits there. -/
theorem spells_digitsOfWidth {width value : Nat} (hwidth : 0 < width)
    (hvalue : value < 10 ^ width) : Spells width value (digitsOfWidth width value) where
  length_eq := length_digitsOfWidth hwidth hvalue
  isDigit := fun _ => isDigit_of_mem_digitsOfWidth
  value_eq := valueOfDigits_digitsOfWidth width value

/-- A number that digits of a width spell fits the width. -/
theorem Spells.value_lt {width value : Nat} {chars : List Char} (h : Spells width value chars) :
    value < 10 ^ width := by
  have hbound := valueOfDigits_lt_pow h.isDigit
  rwa [h.value_eq, h.length_eq] at hbound

section Spells

variable {width value otherValue : Nat} {first second : List Char}
  (hfirst : Spells width value first) (hsecond : Spells width otherValue second)
include hfirst hsecond

/-- Numbers that are spelled in one width have equally many digits. -/
theorem Spells.length_eq_length : first.length = second.length :=
  hfirst.length_eq.trans hsecond.length_eq.symm

/-- Of two numbers that are spelled in one width, the smaller one comes first in the order of
texts. -/
theorem Spells.lt_iff : first < second ↔ value < otherValue := by
  rw [digits_lt_iff hfirst.isDigit hsecond.isDigit (hfirst.length_eq_length hsecond),
    hfirst.value_eq, hsecond.value_eq]

/-- Two numbers are spelled alike in one width only if they are the same. -/
theorem Spells.eq_iff : first = second ↔ value = otherValue := by
  rw [← hfirst.value_eq, ← hsecond.value_eq]
  exact ⟨congrArg valueOfDigits, digits_inj hfirst.isDigit hsecond.isDigit
    (hfirst.length_eq_length hsecond)⟩

end Spells

/-- Of two lists with heads of one length the heads decide, and the rests if those are the same. -/
theorem append_lt_append_iff {α : Type} [LT α] {first second rest other : List α}
    (hlength : first.length = second.length) :
    first ++ rest < second ++ other ↔ first < second ∨ first = second ∧ rest < other := by
  induction first generalizing second with
  | nil =>
    obtain rfl := List.length_eq_zero_iff.mp hlength.symm
    simp
  | cons a first ih =>
    cases second with
    | nil => cases hlength
    | cons b second =>
      rw [List.cons_append, List.cons_append, List.cons_lt_cons_iff, List.cons_lt_cons_iff,
        ih (Nat.succ.inj hlength), List.cons.injEq]
      grind

end LendingClient.Text
