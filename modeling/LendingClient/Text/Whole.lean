import LendingClient.Text.Digits

/-!
# Whole numbers in text

A whole number is written in decimal digits with a sign in front that may be left out. Digits are
looked at one by one from the left, so the first one that is no digit, or that makes the number too
large, decides what is wrong with the text.
-/

namespace LendingClient.Text

/-- Why a text is no whole number within the limits. -/
inductive WholeFault where
  /-- There is no text. -/
  | empty
  /-- A character that is no digit. -/
  | notDigit
  /-- A number above the limit. -/
  | tooLarge
deriving DecidableEq

/-- The fault in words. -/
def WholeFault.message : WholeFault → String
  | .empty => "cannot parse integer from empty string"
  | .notDigit => "invalid digit found in string"
  | .tooLarge => "number too large to fit in target type"

/-- Reads digits behind a number of which nothing may grow above `limit`. -/
def readDigitsUpTo (limit : Nat) : (value : Nat) → List Char → Except WholeFault Nat
  | value, [] => .ok value
  | value, c :: rest =>
    if !c.isDigit then .error .notDigit
    else
      let next := 10 * value + (c.toNat - '0'.toNat)
      if limit < next then .error .tooLarge else readDigitsUpTo limit next rest

/-- Reads at least one digit. -/
def readMagnitude (limit : Nat) (chars : List Char) : Except WholeFault Nat :=
  if chars.isEmpty then .error .notDigit else readDigitsUpTo limit 0 chars

/-- Reads a number from zero to `limit`, with a plus sign or none. -/
def readUnsigned (limit : Nat) : List Char → Except WholeFault Nat
  | [] => .error .empty
  | '+' :: rest => readMagnitude limit rest
  | chars => readMagnitude limit chars

/-- Reads a number from `-low` to `high`, with a sign or none. -/
def readSigned (low high : Nat) : List Char → Except WholeFault Int
  | [] => .error .empty
  | '+' :: rest => (readMagnitude high rest).map Int.ofNat
  | '-' :: rest => (readMagnitude low rest).map fun value => -Int.ofNat value
  | chars => (readMagnitude high chars).map Int.ofNat

end LendingClient.Text
