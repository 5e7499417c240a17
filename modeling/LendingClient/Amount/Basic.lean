import LendingClient.Amount.Numeral

/-!
# Amounts

What the program moves comes in two assets, each counted in units of its own scale. Amounts are read
from decimal text into units, and shown as the shortest decimal text that stands for them.
-/

namespace LendingClient

/-- The two assets that the program moves. -/
inductive Asset where
  /-- The program's own token. -/
  | base
  /-- The token that it is paid with. -/
  | quote
deriving DecidableEq

/-- The name of an asset. -/
def Asset.name : Asset → String
  | .base => "base"
  | .quote => "quote"

/-- The decimal places of each asset. -/
structure Scales where
  base : UInt8
  quote : UInt8
deriving DecidableEq

/-- The decimal places of an asset. -/
def Scales.of (scales : Scales) : Asset → UInt8
  | .base => scales.base
  | .quote => scales.quote

namespace Amount

/-- The units that a decimal text stands for; zero is one of them. -/
def parseFixed (input : String) (decimals : UInt8) : Except InputFault UInt64 :=
  ((Numeral.read input).bind (·.scaled decimals)).mapError (.numeral · input)

/-- The units that a decimal text stands for, at least one. -/
def parse (input : String) (decimals : UInt8) : Except InputFault UInt64 := do
  let raw ← parseFixed input decimals
  if raw = 0 then throw (.notPositive input)
  return raw

/-- Refuses a text that is no positive decimal at any scale. -/
def checkPositive (input : String) : Except InputFault Unit := do
  let numeral ← (Numeral.read input).mapError (.numeral · input)
  if numeral.isZero then throw (.notPositive input)

/-- Digits without the zeros at the end. -/
def dropTrailingZeros (digits : List Char) : List Char :=
  (digits.reverse.dropWhile (· == '0')).reverse

/-- The decimal text of a number of units, as short as can be. A scale whose unit does not fit 128
bits counts as none. -/
def format (raw : UInt64) (decimals : UInt8) : String :=
  let scale := Nat.pow 10 decimals.toNat
  if decimals = 0 ∨ Nat.pow 2 128 ≤ scale then String.ofList (Text.digits raw.toNat)
  else
    let whole := Text.digits (raw.toNat / scale)
    let fraction := raw.toNat % scale
    if fraction = 0 then String.ofList whole
    else String.ofList <|
      whole ++ '.' :: dropTrailingZeros (Text.digitsOfWidth decimals.toNat fraction)

end Amount

end LendingClient
