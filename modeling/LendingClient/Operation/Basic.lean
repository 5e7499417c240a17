import LendingClient.Amount.Fee
import LendingClient.Instruction.Arguments
import LendingClient.Error.Basic

/-!
# Operations

What a user can ask the program to do. Amounts and fees are given as decimal text. `validate` finds
every fault that can be found without asking the ledger.
-/

namespace LendingClient

/-- A change of the program's configuration, with fees in percent; what is left out stays as it
is. -/
structure ConfigChange where
  admin : Option Key := none
  feeReceiver : Option Key := none
  buyFee : Option String := none
  sellFee : Option String := none
  leverageFee : Option String := none
  quoteToken : Option Key := none
  stakeToken : Option Key := none
  stakeVaultProgram : Option Key := none
  stakeEnabled : Option Bool := none
  started : Option Bool := none
deriving DecidableEq

/-- What a user can ask for. -/
inductive Operation where
  /-- Set the program up. -/
  | setUp (feeReceiver quoteMint : Key) (buyFee sellFee leverageFee : String)
  /-- Change the configuration. -/
  | update (change : ConfigChange)
  /-- Make the base token and open trading. -/
  | start (quoteAmount tokenName tokenSymbol tokenUri : String)
  /-- Buy base tokens, possibly sent by somebody. -/
  | buy (quoteAmount : String) (referral : Option Key)
  /-- Sell base tokens. -/
  | sell (baseAmount : String)
  /-- Take a loan for some days. -/
  | borrow (quoteAmount : String) (days : UInt64)
  /-- Take more on the present loan. -/
  | borrowMore (quoteAmount : String)
  /-- Buy base tokens with a loan for some days. -/
  | leverage (quoteAmount : String) (days : UInt64)
  /-- Let the present loan run longer. -/
  | extendLoan (days : UInt64)
  /-- Pay back some of the present loan. -/
  | repay (quoteAmount : String)
  /-- Take back some of the security. -/
  | removeCollateral (baseAmount : String)
  /-- Pay back the present loan. -/
  | closePosition (quoteAmount : String)
  /-- Pay back the present loan out of its security. -/
  | flashClosePosition
  /-- Settle loans that are past their term. -/
  | liquidate
  /-- Stake base tokens. -/
  | stake (baseAmount : String)
  /-- Take staked tokens back. -/
  | unstake (baseAmount : String)
deriving DecidableEq

namespace ConfigChange

/-- Whether nothing changes. -/
def isEmpty (change : ConfigChange) : Bool :=
  change = {}

/-- A fee that may be left out. -/
def fee? (field : FeeField) : Option String → Except InputFault (Option UInt64)
  | none => .ok none
  | some input => (Fee.parse field input).map some

/-- The arguments that make the change. -/
def arguments (change : ConfigChange) : Except InputFault UpdateArguments := do
  let sellFee ← fee? .sell change.sellFee
  let buyFee ← fee? .buy change.buyFee
  let leverageFee ← fee? .leverage change.leverageFee
  return {
    admin := change.admin
    feeReceiver := change.feeReceiver
    sellFee := sellFee
    buyFee := buyFee
    leverageFee := leverageFee
    quoteToken := change.quoteToken
    stakeToken := change.stakeToken
    stakeVaultProgram := change.stakeVaultProgram
    stakeEnabled := change.stakeEnabled
    started := change.started }

/-- Refuses a change of nothing, and one with a bad fee. -/
def validate (change : ConfigChange) : Except InputFault Unit := do
  if change.isEmpty then throw .nothingToUpdate
  let _ ← change.arguments

end ConfigChange

namespace Operation

/-- The program's instruction for an operation. -/
def kind : Operation → InstructionKind
  | .setUp .. => .initMainState
  | .update _ => .updateMainState
  | .start .. => .start
  | .buy _ none => .buy
  | .buy _ (some _) => .buyWithReferral
  | .sell _ => .sell
  | .borrow .. => .borrow
  | .borrowMore _ => .borrowMore
  | .leverage .. => .leverage
  | .extendLoan _ => .extendLoan
  | .repay _ => .repay
  | .removeCollateral _ => .removeCollateral
  | .closePosition _ => .closePosition
  | .flashClosePosition => .flashClosePosition
  | .liquidate => .liquidate
  | .stake _ => .stake
  | .unstake _ => .unstake

/-- Whether an operation changes the user's loan. -/
def changesLoan : Operation → Bool
  | .borrow .. | .borrowMore _ | .leverage .. | .extendLoan _ | .repay _ | .removeCollateral _
  | .closePosition _ | .flashClosePosition => true
  | _ => false

/-- Refuses a describing text that is empty or too long. -/
def checkText (field : TokenField) (text : String) : Except InputFault Unit :=
  let length := text.utf8ByteSize
  if length = 0 ∨ field.limit < length then .error (.textLength field length) else .ok ()

/-- Refuses a term of no day, and one that is too long. -/
def checkTerm (days : UInt64) : Except InputFault Unit :=
  if days = 0 ∨ longestTerm < days.toNat then .error (.term days) else .ok ()

/-- Refuses what is at fault whatever the state of the ledger. -/
def validate : Operation → Except InputFault Unit
  | .setUp _ _ buyFee sellFee leverageFee => do
    let _ ← Fee.parse .buy buyFee
    let _ ← Fee.parse .sell sellFee
    let _ ← Fee.parse .leverage leverageFee
  | .update change => change.validate
  | .start amount name symbol uri => do
    Amount.checkPositive amount
    checkText .name name
    checkText .symbol symbol
    checkText .uri uri
  | .borrow amount days | .leverage amount days => do
    Amount.checkPositive amount
    checkTerm days
  | .extendLoan days => checkTerm days
  | .buy amount _ | .sell amount | .borrowMore amount | .repay amount | .removeCollateral amount
  | .closePosition amount | .stake amount | .unstake amount => Amount.checkPositive amount
  | .flashClosePosition | .liquidate => .ok ()

end Operation

end LendingClient
