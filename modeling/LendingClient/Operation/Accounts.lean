import LendingClient.Operation.Market

/-!
# Accounts of the instructions

Which accounts each instruction of the program uses, in the order in which the program expects them.
Trades and loans share a list that names two days, today and the day up to which loans are settled;
loans name further days behind it.
-/

namespace LendingClient.Market

/-- The accounts and days of a trade or a loan. -/
structure Usage where
  accounts : List AccountUse
  days : List String

/-- The totals of a day as an account that may be changed. -/
def dayAccount (market : Market) (day : String) : Plan AccountUse := do
  let (address, _) ← Plan.ofAbort (Address.dailyStats market.program day)
  return .changed address

/-- The accounts that every trade and every loan uses. -/
def commonUsage (market : Market) (owner : Key) : Plan Usage := do
  let mint ← Plan.ofInput market.baseMint
  let today ← Plan.ofExcept (Calendar.dayText market.now.toInt)
  let settled ← Plan.ofExcept (Calendar.dayText market.global.lastLiquidationDate.toInt)
  let todayAccount ← market.dayAccount today
  let settledAccount ← market.dayAccount settled
  let receiver := market.config.feeReceiver
  let vaultOwner := market.vaultOwner
  return {
    accounts := [
      .payer owner,
      .changed (Address.mainState market.program).1,
      .changed (Address.globalStats market.program).1,
      todayAccount,
      settledAccount,
      .changed (Address.userLoan market.program owner).1,
      .changed receiver,
      .changed mint,
      .changed (market.baseHolder owner mint),
      .changed vaultOwner,
      .changed (market.baseHolder vaultOwner mint),
      .changed market.config.quoteToken,
      .changed (market.quoteHolder vaultOwner),
      .changed (market.quoteHolder owner),
      .changed (market.quoteHolder receiver),
      .read Address.holderProgram,
      .read market.deployment.tokenPrograms.base,
      .read market.deployment.tokenPrograms.quote,
      .read Address.systemProgram]
    days := [today, settled] }

/-- What a buyer's instruction uses for whoever sent them. -/
def referralAccounts (market : Market) (referral : Key) : List AccountUse :=
  [.changed referral,
    .changed (market.quoteHolder referral),
    .read market.deployment.tokenPrograms.quote,
    .read Address.holderProgram,
    .read Address.systemProgram]

/-- The accounts of a new loan that matures on a day. -/
def openLoanUsage (market : Market) (owner : Key) (days : UInt64) : Plan Usage := do
  let common ← market.commonUsage owner
  let endDay ← Plan.ofExcept (Calendar.maturityDay market.now.toInt days)
  let endAccount ← market.dayAccount endDay
  return {
    accounts := common.accounts ++ [.payer owner, endAccount, .read Address.systemProgram]
    days := common.days ++ [endDay] }

/-- The accounts of a change of the present loan. -/
def adjustLoanUsage (market : Market) (owner : Key) (loan : UserLoan) : Plan Usage := do
  let common ← market.commonUsage owner
  let endDay ← Plan.ofExcept (Calendar.dayText loan.endDate.toInt)
  let endAccount ← market.dayAccount endDay
  return {
    accounts := common.accounts ++ [endAccount]
    days := common.days ++ [endDay] }

/-- The greatest timestamp. -/
def lastInstant : Int := Int64.maxValue.toInt

/-- When a loan ends that runs some days longer, as far as timestamps go. The whole loan may not run
longer than the longest term, counted from now. -/
def extendedEnd (market : Market) (loan : UserLoan) (days : UInt64) : Plan Int := do
  let extra : Int := days.toNat * Calendar.secondsPerDay
  if !Calendar.fitsTimestamp extra then throw (.input (.extensionTooLong days))
  let newEnd := min (loan.endDate.toInt + extra) lastInstant
  let left := newEnd - market.now.toInt
  if !Calendar.fitsTimestamp left then Plan.ofAbort (.error .termOverflow)
  let remaining := left.tdiv Calendar.secondsPerDay
  if (longestTerm : Int) < remaining then throw (.input (.extendedTooFar remaining))
  return newEnd

/-- The accounts of an extension of the present loan. -/
def extendLoanUsage (market : Market) (owner : Key) (loan : UserLoan) (days : UInt64) :
    Plan Usage := do
  let newEnd ← market.extendedEnd loan days
  let common ← market.commonUsage owner
  let oldDay ← Plan.ofExcept (Calendar.dayText loan.endDate.toInt)
  let newDay ← Plan.ofExcept (Calendar.dayText newEnd)
  let oldAccount ← market.dayAccount oldDay
  let newAccount ← market.dayAccount newDay
  return {
    accounts := common.accounts ++
      [.payer owner, oldAccount, newAccount, .read Address.systemProgram]
    days := common.days ++ [oldDay, newDay] }

/-- The accounts that set the program up. -/
def setUpAccounts (program admin quoteMint : Key) : List AccountUse :=
  [.payer admin,
    .changed (Address.globalStats program).1,
    .changed (Address.mainState program).1,
    .read quoteMint,
    .read Address.systemProgram]

/-- The accounts of a change of the configuration. -/
def updateAccounts (program admin stakeToken : Key) : List AccountUse :=
  [.witness admin, .changed (Address.mainState program).1, .read stakeToken]

/-- The accounts that open trading with a new mint. -/
def startAccounts (market : Market) (admin base : Key) : List AccountUse :=
  let receiver := market.config.feeReceiver
  let vaultOwner := market.vaultOwner
  [.payer admin,
    .changed (Address.mainState market.program).1,
    .changed (Address.globalStats market.program).1,
    .changed market.config.quoteToken,
    .changed (market.quoteHolder admin),
    .payer base,
    .changed (Address.metadata base),
    .changed vaultOwner,
    .changed (market.baseHolder vaultOwner base),
    .changed (market.quoteHolder vaultOwner),
    .changed receiver,
    .changed (market.quoteHolder receiver),
    .read Address.rent,
    .read Address.metadataProgram,
    .read Address.holderProgram,
    .read market.deployment.tokenPrograms.base,
    .read market.deployment.tokenPrograms.quote,
    .read Address.systemProgram]

/-- The stake token and the program that keeps the stakes. -/
def staking (market : Market) : Except InputFault (Key × Key) :=
  match market.config.staking? with
  | some staking => .ok staking
  | none => .error .stakingNotConfigured

/-- The programs that take part in staking. -/
def stakePrograms (market : Market) (stakeProgram : Key) : List AccountUse :=
  [.read stakeProgram,
    .read market.deployment.tokenPrograms.base,
    .read market.deployment.tokenPrograms.quote,
    .read Address.systemProgram,
    .read Address.holderProgram]

/-- The accounts of a stake. -/
def stakeAccounts (market : Market) (owner stakeToken stakeProgram baseMint : Key) :
    List AccountUse :=
  let keeper := Address.stakeVaultOwner stakeProgram
  [.payer owner,
    .changed (Address.stakeVaultState stakeProgram),
    .changed (Address.globalStats market.program).1,
    .changed (Address.mainState market.program).1,
    .changed (market.baseHolder owner baseMint),
    .changed (market.quoteHolder owner),
    .changed (market.baseHolder owner stakeToken),
    .changed (market.baseHolder keeper baseMint),
    .changed baseMint,
    .changed (market.quoteHolder keeper),
    .changed market.config.quoteToken,
    .changed stakeToken,
    .changed keeper] ++
  market.stakePrograms stakeProgram

/-- The accounts of taking a stake back. -/
def unstakeAccounts (market : Market) (owner stakeToken stakeProgram baseMint : Key) :
    List AccountUse :=
  let keeper := Address.stakeVaultOwner stakeProgram
  [.payer owner,
    .read Address.instructions,
    .changed (Address.stakeVaultState stakeProgram),
    .changed (Address.globalStats market.program).1,
    .changed (Address.mainState market.program).1,
    .changed (market.baseHolder owner baseMint),
    .changed (market.baseHolder owner stakeToken),
    .changed (market.baseHolder keeper baseMint),
    .changed baseMint,
    .changed (market.quoteHolder keeper),
    .changed (market.quoteHolder market.vaultOwner),
    .changed market.config.quoteToken,
    .changed stakeToken,
    .changed keeper,
    .changed market.vaultOwner] ++
  market.stakePrograms stakeProgram

end LendingClient.Market
