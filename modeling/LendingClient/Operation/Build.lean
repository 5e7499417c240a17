import LendingClient.Batch
import LendingClient.Operation.Accounts

/-!
# Building batches

How an operation becomes a batch: its input is checked, the records that it depends on are read, the
amount is turned into units, and the accounts and arguments of the program's instruction are put
together. Nothing is read before the input is found to be good.
-/

namespace LendingClient

open InstructionKind (initMainState updateMainState flashClosePosition)

namespace Deployment

/-- A batch with the program's instruction alone behind its head. -/
def batch (deployment : Deployment) (kind : InstructionKind) (owner : Key)
    (accounts : List AccountUse) (data : Bytes) : Batch :=
  .headed kind owner [⟨deployment.program, accounts, data⟩]

/-- A batch that touches the totals of days. -/
def batchOnDays (deployment : Deployment) (kind : InstructionKind) (owner : Key)
    (usage : Market.Usage) (data : Bytes) : Batch :=
  { deployment.batch kind owner usage.accounts data with days := usage.days }

/-- Sets the program up, unless it is already. -/
def setUp (deployment : Deployment) (admin feeReceiver quoteMint : Key)
    (buyFee sellFee leverageFee : String) : Action Batch := do
  let sellFee ← Plan.ofInput (Fee.parse .sell sellFee)
  let buyFee ← Plan.ofInput (Fee.parse .buy buyFee)
  let leverageFee ← Plan.ofInput (Fee.parse .leverage leverageFee)
  let program := deployment.program
  let present ← (Read.optional MainState (Address.mainState program).1).perform
  if present.isSome then throw (.input .alreadyInitialised)
  return deployment.batch initMainState admin (Market.setUpAccounts program admin quoteMint)
    (initMainState.encode .setUp ⟨feeReceiver, sellFee, buyFee, leverageFee⟩)

/-- Changes the configuration. Only the administrator may, and a stake token has to be named, by the
change or by the configuration. -/
def update (deployment : Deployment) (admin : Key) (change : ConfigChange) : Action Batch := do
  let args ← Plan.ofInput change.arguments
  let config ← (Read.mainState deployment.program).perform
  if config.admin ≠ admin then throw (.input (.notAdmin admin))
  let stakeToken := args.stakeToken.getD config.stakeToken
  if stakeToken = Key.unset then throw (.input .noStakeToken)
  return deployment.batch updateMainState admin
    (Market.updateAccounts deployment.program admin stakeToken)
    (updateMainState.encode .update args)

/-- Opens trading with a new mint, whose key signs the batch as well. -/
def start (deployment : Deployment) (admin : Key) (now : Int64)
    (amount name symbol uri : String) : Action Batch := do
  let market ← deployment.market now
  if market.global.baseMint?.isSome then throw (.input .alreadyStarted)
  let units ← market.units .quote amount
  let base ← Action.freshKey
  let batch := deployment.batch .start admin (market.startAccounts admin base.key)
    (InstructionKind.start.encode .start ⟨units, name, symbol, uri⟩)
  return { batch with cosigners := [base] }

/-- Buys base tokens. -/
def buy (deployment : Deployment) (owner : Key) (now : Int64) (amount : String) :
    Action Batch := do
  let market ← deployment.market now
  let units ← market.units .quote amount
  let usage ← market.commonUsage owner
  return deployment.batchOnDays .buy owner usage (InstructionKind.buy.encode .amount units)

/-- Buys base tokens for somebody who was sent. The token account of whoever sent them is made in the
same transaction if it is not there. -/
def buyWithReferral (deployment : Deployment) (owner : Key) (now : Int64) (amount : String)
    (referral : Key) : Action Batch := do
  if referral = owner then throw (.input .selfReferral)
  let market ← deployment.market now
  let units ← market.units .quote amount
  let usage ← market.commonUsage owner
  let account : Instruction := .makeHolder owner (market.quoteHolder referral) referral
    market.config.quoteToken market.deployment.tokenPrograms.quote
  let purchase : Instruction := ⟨deployment.program,
    usage.accounts ++ market.referralAccounts referral,
    InstructionKind.buyWithReferral.encode .referralAmount (referral, units)⟩
  return { Batch.headed .buyWithReferral owner [account, purchase] with days := usage.days }

/-- Sells base tokens. -/
def sell (deployment : Deployment) (owner : Key) (now : Int64) (amount : String) :
    Action Batch := do
  let market ← deployment.market now
  let units ← market.units .base amount
  let usage ← market.commonUsage owner
  return deployment.batchOnDays .sell owner usage (InstructionKind.sell.encode .amount units)

/-- Settles loans that are past their term; anybody may. -/
def liquidate (deployment : Deployment) (owner : Key) (now : Int64) : Action Batch := do
  let market ← deployment.market now
  let usage ← market.commonUsage owner
  return deployment.batchOnDays .liquidate owner usage
    (InstructionKind.liquidate.encode .unit ())

/-- Takes a new loan, as such or for buying base tokens. -/
def openLoan (deployment : Deployment) (kind : InstructionKind) (owner : Key) (now : Int64)
    (amount : String) (days : UInt64) : Action Batch := do
  let market ← deployment.market now
  let units ← market.units .quote amount
  let usage ← market.openLoanUsage owner days
  return deployment.batchOnDays kind owner usage (kind.encode .daysAmount (days, units))

/-- Changes the present loan by an amount. -/
def adjustLoan (deployment : Deployment) (kind : InstructionKind) (owner : Key) (now : Int64)
    (asset : Asset) (amount : String) : Action Batch := do
  let (market, loan) ← deployment.marketAndLoan owner now
  let units ← market.units asset amount
  let usage ← market.adjustLoanUsage owner loan
  return deployment.batchOnDays kind owner usage (kind.encode .amount units)

/-- Pays back the present loan out of its security. -/
def flashClose (deployment : Deployment) (owner : Key) (now : Int64) : Action Batch := do
  let (market, loan) ← deployment.marketAndLoan owner now
  let usage ← market.adjustLoanUsage owner loan
  return deployment.batchOnDays flashClosePosition owner usage
    (flashClosePosition.encode .unit ())

/-- Lets the present loan run longer. Its new end follows from the record of the loan. -/
def extendLoan (deployment : Deployment) (owner : Key) (now : Int64) (days : UInt64) :
    Action Batch := do
  let (market, loan) ← deployment.marketAndLoan owner now
  let usage ← market.extendLoanUsage owner loan days
  return deployment.batchOnDays .extendLoan owner usage
    (InstructionKind.extendLoan.encode .u64 days)

/-- Stakes base tokens. -/
def stake (deployment : Deployment) (owner : Key) (now : Int64) (amount : String) :
    Action Batch := do
  let market ← deployment.market now
  let (token, program) ← Plan.ofInput market.staking
  let units ← market.units .base amount
  let mint ← Plan.ofInput market.baseMint
  return deployment.batch .stake owner (market.stakeAccounts owner token program mint)
    (InstructionKind.stake.encode .amount units)

/-- Takes staked base tokens back. -/
def unstake (deployment : Deployment) (owner : Key) (now : Int64) (amount : String) :
    Action Batch := do
  let market ← deployment.market now
  let (token, program) ← Plan.ofInput market.staking
  let units ← market.units .base amount
  let mint ← Plan.ofInput market.baseMint
  return deployment.batch .unstake owner (market.unstakeAccounts owner token program mint)
    (InstructionKind.unstake.encode .amount units)

/-- The batch of an operation that `owner` asks for at an instant. -/
def build (deployment : Deployment) (operation : Operation) (owner : Key) (now : Int64) :
    Action Batch := do
  Plan.ofInput operation.validate
  match operation with
  | .setUp receiver mint buyFee sellFee leverageFee =>
    deployment.setUp owner receiver mint buyFee sellFee leverageFee
  | .update change => deployment.update owner change
  | .start amount name symbol uri => deployment.start owner now amount name symbol uri
  | .buy amount none => deployment.buy owner now amount
  | .buy amount (some referral) => deployment.buyWithReferral owner now amount referral
  | .sell amount => deployment.sell owner now amount
  | .borrow amount days => deployment.openLoan .borrow owner now amount days
  | .leverage amount days => deployment.openLoan .leverage owner now amount days
  | .borrowMore amount => deployment.adjustLoan .borrowMore owner now .quote amount
  | .repay amount => deployment.adjustLoan .repay owner now .quote amount
  | .removeCollateral amount => deployment.adjustLoan .removeCollateral owner now .base amount
  | .closePosition amount => deployment.adjustLoan .closePosition owner now .quote amount
  | .flashClosePosition => deployment.flashClose owner now
  | .extendLoan days => deployment.extendLoan owner now days
  | .liquidate => deployment.liquidate owner now
  | .stake amount => deployment.stake owner now amount
  | .unstake amount => deployment.unstake owner now amount

end Deployment

end LendingClient
