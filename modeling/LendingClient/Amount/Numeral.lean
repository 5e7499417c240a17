import LendingClient.Amount.Word
import LendingClient.Error.Input
import LendingClient.Text.Blank

/-!
# Decimal numerals

Amounts and fees are given as decimal text: digits with at most one point among them, at least one
digit, and blanks around it that do not count. A numeral is read without knowing a scale and then
turned into a whole number of units, ten to the power of `decimals` to the one.
-/

namespace LendingClient

/-- The digits before and after the point of a decimal text. -/
structure Numeral where
  whole : List Char
  fraction : List Char
deriving DecidableEq

namespace Numeral

/-- Reads a decimal text. -/
def read (text : String) : Except NumeralFault Numeral :=
  let chars := Text.trim text.toList
  let whole := chars.takeWhile (· != '.')
  let fraction := (chars.dropWhile (· != '.')).drop 1
  if chars.isEmpty then .error .empty
  else if whole.isEmpty && fraction.isEmpty then .error .noDigits
  else if whole.all Char.isDigit && fraction.all Char.isDigit then .ok ⟨whole, fraction⟩
  else .error .malformed

/-- Whether a numeral stands for zero. -/
def isZero (numeral : Numeral) : Bool :=
  (numeral.whole ++ numeral.fraction).all (· == '0')

/-- The units of a numeral, given the units that one stands for: the whole part takes as many times
those, and the digits after the point are filled up with zeros. -/
def word? (numeral : Numeral) (decimals : Nat) (scale : UInt64) : Option UInt64 := do
  let whole ← Word.ofDigits? numeral.whole
  let fraction ← Word.ofDigits? (numeral.fraction.rightpad decimals '0')
  Word.add? (← Word.mul? whole scale) fraction

/-- The number of units that a numeral stands for at a scale. Nothing is rounded: a numeral that is
finer than the scale is refused, as is one that 64 bits cannot hold. -/
def scaled (numeral : Numeral) (decimals : UInt8) : Except NumeralFault UInt64 :=
  if decimals.toNat < numeral.fraction.length then .error (.tooPrecise decimals)
  else
    match Word.pow? 10 decimals.toNat with
    | none => .error .scaleTooLarge
    | some scale =>
      match numeral.word? decimals.toNat scale with
      | none => .error .tooLarge
      | some units => .ok units

end Numeral

end LendingClient
