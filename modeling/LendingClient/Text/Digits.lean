/-!
# Decimal digits

Numbers as decimal digits, with zeros in front up to a width, and the number that digits stand for.
-/

namespace LendingClient.Text

/-- The decimal digits of a number, without leading zeros; zero has one digit. -/
def digits (value : Nat) : List Char :=
  Nat.toDigits 10 value

/-- The decimal digits of a number, with zeros in front up to `width` digits. -/
def digitsOfWidth (width value : Nat) : List Char :=
  let shortest := digits value
  List.replicate (width - shortest.length) '0' ++ shortest

/-- The number that decimal digits stand for, the highest first. -/
def valueOfDigits (chars : List Char) : Nat :=
  chars.foldl (fun value c => 10 * value + (c.toNat - '0'.toNat)) 0

/-- Another digit at the end makes ten times the number, and the digit. -/
theorem valueOfDigits_concat (chars : List Char) (c : Char) :
    valueOfDigits (chars ++ [c]) = 10 * valueOfDigits chars + (c.toNat - '0'.toNat) := by
  simp [valueOfDigits]

/-- Zeros in front make at least `width` digits. -/
theorem le_length_digitsOfWidth (width value : Nat) :
    width ≤ (digitsOfWidth width value).length := by
  simp only [digitsOfWidth, List.length_append, List.length_replicate]
  omega

end LendingClient.Text
