import LendingClient.Text.Digits

/-!
# Words

Units are counted in words of 64 bits. The arithmetic of words is checked: a result that needs more
bits is none, and nothing wraps around.
-/

namespace LendingClient.Word

/-- A number as a word. -/
def ofNat? (value : Nat) : Option UInt64 :=
  if value < UInt64.size then some (UInt64.ofNat value) else none

/-- The sum of two words. -/
def add? (first second : UInt64) : Option UInt64 :=
  ofNat? (first.toNat + second.toNat)

/-- The product of two words. -/
def mul? (first second : UInt64) : Option UInt64 :=
  ofNat? (first.toNat * second.toNat)

/-- The power of a word. -/
def pow? (base : UInt64) (exponent : Nat) : Option UInt64 :=
  ofNat? (Nat.pow base.toNat exponent)

/-- Takes in one more decimal digit at the end of a number. -/
def appendDigit? (word : UInt64) (c : Char) : Option UInt64 := do
  add? (← mul? 10 word) (UInt64.ofNat (c.toNat - '0'.toNat))

/-- The word that decimal digits stand for, the highest first; no digits stand for zero. -/
def ofDigits? (chars : List Char) : Option UInt64 :=
  chars.foldlM appendDigit? 0

/-- A number is a word exactly if the word counts it. -/
theorem ofNat?_eq_some_iff {value : Nat} {word : UInt64} :
    ofNat? value = some word ↔ word.toNat = value := by
  unfold ofNat?
  constructor
  · intro h
    split at h
    · rename_i hfits
      cases h
      exact UInt64.toNat_ofNat_of_lt' hfits
    · cases h
  · rintro rfl
    rw [if_pos word.toNat_lt_size, UInt64.ofNat_toNat]

/-- Every number below the size of a word is that of a word. -/
theorem exists_toNat_eq {value : Nat} (h : value < UInt64.size) :
    ∃ word : UInt64, word.toNat = value :=
  ⟨UInt64.ofNat value, UInt64.toNat_ofNat_of_lt' h⟩

/-- A number has no word exactly if it does not fit one. -/
theorem ofNat?_eq_none_iff {value : Nat} : ofNat? value = none ↔ UInt64.size ≤ value := by
  unfold ofNat?
  split <;> simp <;> omega

/-- One more digit makes ten times the number, and the digit. -/
theorem appendDigit?_eq (word : UInt64) (c : Char) :
    appendDigit? word c = ofNat? (10 * word.toNat + (c.toNat - '0'.toNat)) := by
  have hdigit : (UInt64.ofNat (c.toNat - '0'.toNat)).toNat = c.toNat - '0'.toNat := by
    have hsmall : c.toNat < UInt32.size := c.val.toNat_lt_size
    have hsizes : UInt32.size < UInt64.size := by decide
    exact UInt64.toNat_ofNat_of_lt' (by omega)
  have hten : (10 : UInt64).toNat = 10 := rfl
  cases hmul : mul? 10 word with
  | none =>
    have hlarge := ofNat?_eq_none_iff.mp hmul
    rw [hten] at hlarge
    simp only [appendDigit?, hmul]
    exact (ofNat?_eq_none_iff.mpr (by omega)).symm
  | some tenfold =>
    have htenfold := ofNat?_eq_some_iff.mp hmul
    simp only [appendDigit?, hmul]
    change ofNat? _ = _
    rw [hdigit, htenfold, hten]

/-- Reading digits into a word is exact, and fails only for a number that is no word: taking in
more digits never makes a number smaller. -/
theorem foldlM_appendDigit? (chars : List Char) (word : UInt64) :
    chars.foldlM appendDigit? word =
      ofNat? (chars.foldl (fun value c => 10 * value + (c.toNat - '0'.toNat)) word.toNat) := by
  have hgrows (chars : List Char) (value : Nat) :
      value ≤ chars.foldl (fun value c => 10 * value + (c.toNat - '0'.toNat)) value := by
    induction chars generalizing value with
    | nil => exact Nat.le_refl _
    | cons c chars ih =>
      have hstep : value ≤ 10 * value + (c.toNat - '0'.toNat) := by omega
      exact Nat.le_trans hstep (ih _)
  induction chars generalizing word with
  | nil => exact (ofNat?_eq_some_iff.mpr rfl).symm
  | cons c chars ih =>
    rw [List.foldlM_cons, List.foldl_cons]
    cases hnext : appendDigit? word c with
    | none =>
      rw [appendDigit?_eq, ofNat?_eq_none_iff] at hnext
      exact (ofNat?_eq_none_iff.mpr (Nat.le_trans hnext (hgrows chars _))).symm
    | some next =>
      rw [appendDigit?_eq, ofNat?_eq_some_iff] at hnext
      change chars.foldlM appendDigit? next = _
      rw [ih, hnext]

/-- Digits stand for a word exactly if the word counts the number that they stand for. -/
theorem ofDigits?_eq_some_iff {chars : List Char} {word : UInt64} :
    ofDigits? chars = some word ↔ word.toNat = Text.valueOfDigits chars := by
  rw [ofDigits?, foldlM_appendDigit?, ofNat?_eq_some_iff]
  rfl

end LendingClient.Word
