import LendingClient.Key
import LendingClient.Text.Quoted

/-!
# Faults of an input

What can be wrong with what a caller asks for: the text of an amount or a fee, a name, a term, or a
request that does not fit the state of the program. Each fault is a cause; the words for it are in
`message`.
-/

namespace LendingClient

/-- Why a text is no decimal, or none of the wanted scale. -/
inductive NumeralFault where
  /-- Nothing but blanks. -/
  | empty
  /-- A point without a digit on either side. -/
  | noDigits
  /-- A character that is neither a digit nor the one point. -/
  | malformed
  /-- More digits after the point than the scale has. -/
  | tooPrecise (decimals : UInt8)
  /-- A scale whose unit does not fit 64 bits. -/
  | scaleTooLarge
  /-- A number that does not fit 64 bits. -/
  | tooLarge
deriving DecidableEq

/-- The fault in words. -/
def NumeralFault.message : NumeralFault → String
  | .empty => "empty amount"
  | .noDigits => "not a number"
  | .malformed => "not a non-negative decimal"
  | .tooPrecise decimals => s!"more than {decimals} decimal places"
  | .scaleTooLarge => "scale too large"
  | .tooLarge => "amount too large"

/-- The three fees of the program. -/
inductive FeeField where
  | buy
  | sell
  | leverage
deriving DecidableEq

/-- The name of a fee. -/
def FeeField.label : FeeField → String
  | .buy => "buy fee"
  | .sell => "sell fee"
  | .leverage => "leverage fee"

/-- The texts that describe the base token. -/
inductive TokenField where
  | name
  | symbol
  | uri
deriving DecidableEq

/-- The name of a describing text. -/
def TokenField.label : TokenField → String
  | .name => "token name"
  | .symbol => "token symbol"
  | .uri => "token uri"

/-- The number of UTF-8 bytes that a describing text may have. -/
def TokenField.limit : TokenField → Nat
  | .name => 32
  | .symbol => 10
  | .uri => 200

/-- The longest term of a loan, in days. -/
def longestTerm : Nat := 365

/-- What is wrong with a request. -/
inductive InputFault where
  /-- The text is no decimal of the wanted scale. -/
  | numeral (why : NumeralFault) (input : String)
  /-- An amount of zero. -/
  | notPositive (input : String)
  /-- The text of a fee is no decimal with two places. -/
  | fee (field : FeeField) (why : NumeralFault) (input : String)
  /-- A fee of more than the whole. -/
  | feeAboveWhole (field : FeeField) (input : String)
  /-- A describing text that is empty or too long. -/
  | textLength (field : TokenField) (length : Nat)
  /-- An update without a field. -/
  | nothingToUpdate
  /-- A term of no day, or of too many. -/
  | term (days : UInt64)
  /-- A day so far ahead that its timestamp does not fit 64 bits. -/
  | beyondCalendar (days : UInt64)
  /-- The program's configuration is there already. -/
  | alreadyInitialised
  /-- The signer does not administer the program. -/
  | notAdmin (signer : Key)
  /-- Neither the update nor the configuration names a stake token. -/
  | noStakeToken
  /-- The base token was created already. -/
  | alreadyStarted
  /-- The base token was not created yet. -/
  | notStarted
  /-- The stake token or the program that keeps the stakes is not set. -/
  | stakingNotConfigured
  /-- A buyer who names themselves as the one who sent them. -/
  | selfReferral
  /-- An extension whose seconds do not fit 64 bits. -/
  | extensionTooLong (days : UInt64)
  /-- A loan that would run past the longest term. -/
  | extendedTooFar (remaining : Int)
deriving DecidableEq

/-- The fault in words. -/
def InputFault.message : InputFault → String
  | .numeral why input => s!"{why.message}: {Text.quote input}"
  | .notPositive input => s!"amount must be positive, got {Text.quote input}"
  | .fee field why input =>
    s!"{field.label}: invalid input: {why.message}: {Text.quote input}"
  | .feeAboveWhole field input => s!"{field.label} above 100%: {input}"
  | .textLength field length =>
    s!"{field.label} must be 1..={field.limit} bytes, got {length}"
  | .nothingToUpdate => "config update changes nothing"
  | .term days => s!"loan term must be 1..={longestTerm} days, got {days}"
  | .beyondCalendar days => s!"{days} days overflows the calendar"
  | .alreadyInitialised => "program is already initialised"
  | .notAdmin signer => s!"{signer.text} is not the program admin"
  | .noStakeToken => "a stake token mint is required to update the config"
  | .alreadyStarted => "program has already been started"
  | .notStarted => "base mint not created yet, run start first"
  | .stakingNotConfigured => "stake token or stake vault program not configured"
  | .selfReferral => "cannot refer yourself"
  | .extensionTooLong days => s!"{days} days is out of range"
  | .extendedTooFar remaining =>
    s!"extended loan would run {remaining} days, limit is {longestTerm}"

end LendingClient
