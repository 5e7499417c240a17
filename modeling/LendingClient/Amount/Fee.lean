import LendingClient.Amount.Basic

/-!
# Fees

A fee is a percentage with two decimal places, kept as a whole number of hundredths of a percent.
-/

namespace LendingClient.Fee

/-- The decimal places of a percentage. -/
def decimals : UInt8 := 2

/-- All of it: one hundred percent. -/
def whole : UInt64 := 10000

/-- The hundredths of a percent that a text stands for; zero is allowed. -/
def parse (field : FeeField) (input : String) : Except InputFault UInt64 := do
  let raw ← ((Numeral.read input).bind (·.scaled decimals)).mapError (.fee field · input)
  if whole < raw then throw (.feeAboveWhole field input)
  return raw

/-- A fee in percent, always with two decimal places. -/
def percent (raw : UInt64) : String :=
  String.ofList <|
    Text.digits (raw.toNat / 100) ++ '.' :: Text.digitsOfWidth 2 (raw.toNat % 100)

end LendingClient.Fee
