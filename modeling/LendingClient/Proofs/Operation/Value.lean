import LendingClient.Operation.Build
import LendingClient.Proofs.Address
import LendingClient.Proofs.Ledger.Read

/-!
# What building comes to

For each operation, the batch that building comes to on a snapshot of the accounts: which records
have to be found, what is worked out from them, and the batch that is put together. Everything that
is said of batches and of the states that admit them follows from these equivalences.
-/

namespace LendingClient

open LendingClient.Action

variable {snapshot : Snapshot}

/-- A key is set if it is not the one that stands for none. -/
theorem Key.set?_eq_some_iff {key other : Key} :
    key.set? = some other ↔ key = other ∧ other ≠ Key.unset := by
  unfold Key.set?
  by_cases h : key = Key.unset
  · rw [if_pos h]
    exact ⟨nofun, fun ⟨hkey, hset⟩ => absurd (hkey ▸ h) hset⟩
  · rw [if_neg h, Option.some.injEq]
    exact ⟨fun hkey => ⟨hkey, hkey ▸ h⟩, fun hkey => hkey.1⟩

namespace Market

/-- The decimal places of an asset: the configured ones, or else those of its mint. -/
def ScaleIs (market : Market) (accounts : Accounts) (asset : Asset) (decimals : UInt8) : Prop :=
  match market.deployment.scales with
  | some scales => decimals = scales.of asset
  | none => ∃ mint, market.mint asset = .ok mint ∧ accounts.HoldsMint mint decimals

variable {market : Market} {owner : Key}

/-- The decimal places that are found are those of the scale of the asset. -/
theorem valueOn_decimals_iff {asset : Asset} {places : UInt8} :
    valueOn snapshot (market.decimals asset) = some places ↔
      market.ScaleIs snapshot.accounts asset places := by
  unfold decimals ScaleIs
  cases market.deployment.scales with
  | some scales => exact valueOn_pure_iff
  | none =>
    simp only [valueOn_bind_iff, valueOn_ofInput_iff, Read.valueOn_perform,
      Read.value?_decimals_eq_some_iff]

/-- The units that are found are those that the text stands for at the scale of the asset. -/
theorem valueOn_units_iff {asset : Asset} {input : String} {raw : UInt64} :
    valueOn snapshot (market.units asset input) = some raw ↔
      ∃ places, market.ScaleIs snapshot.accounts asset places ∧
        Amount.parse input places = .ok raw := by
  simp only [units, valueOn_bind_iff, valueOn_decimals_iff, valueOn_ofInput_iff]

/-- There is a base mint once a base token is set. -/
theorem baseMint_eq_ok_iff {mint : Key} :
    market.baseMint = .ok mint ↔ market.global.baseToken = mint ∧ mint ≠ Key.unset := by
  rw [← Key.set?_eq_some_iff]
  unfold baseMint GlobalStats.baseMint?
  cases market.global.baseToken.set? <;> simp

/-- Trading is open, and the days that every trade touches are in the calendar. -/
structure Trades (market : Market) : Prop where
  mint : market.global.baseToken ≠ Key.unset
  today : Calendar.Covers market.now.toInt
  settled : Calendar.Covers market.global.lastLiquidationDate.toInt

/-- The totals of a day in the calendar have an account. -/
theorem exists_dayAccount {time : Int} {day : String} (h : Calendar.dayText time = .ok day) :
    ∃ account, (market.dayAccount day).value? = some account := by
  obtain ⟨found, hfound⟩ := Address.exists_dailyStats_of_dayText market.program h
  unfold dayAccount
  rw [hfound]
  exact ⟨.changed found.1, rfl⟩

/-- The accounts of a trade can be worked out exactly if the market trades. -/
theorem exists_commonUsage_iff :
    (∃ usage, (market.commonUsage owner).value? = some usage) ↔ market.Trades := by
  simp only [commonUsage, Plan.value?_bind_iff, Plan.value?_ofInput_iff, Plan.value?_ofExcept_iff]
  constructor
  · rintro ⟨usage, mint, hmint, today, htoday, settled, hsettled, -⟩
    obtain ⟨rfl, hset⟩ := baseMint_eq_ok_iff.mp hmint
    exact ⟨hset, (Calendar.dayText_eq_ok_iff.mp htoday).1,
      (Calendar.dayText_eq_ok_iff.mp hsettled).1⟩
  · rintro ⟨hset, htoday, hsettled⟩
    obtain ⟨today, htoday⟩ := Calendar.exists_dayText htoday
    obtain ⟨settled, hsettled⟩ := Calendar.exists_dayText hsettled
    obtain ⟨todayAccount, htodayAccount⟩ := market.exists_dayAccount htoday
    obtain ⟨settledAccount, hsettledAccount⟩ := market.exists_dayAccount hsettled
    exact ⟨_, _, baseMint_eq_ok_iff.mpr ⟨rfl, hset⟩, today, htoday, settled, hsettled,
      todayAccount, htodayAccount, settledAccount, hsettledAccount, rfl⟩

/-- The accounts of a new loan can be worked out exactly if the market trades and the loan matures in
the calendar. -/
theorem exists_openLoanUsage_iff {days : UInt64} :
    (∃ usage, (market.openLoanUsage owner days).value? = some usage) ↔ market.Trades ∧
      Calendar.Covers (market.now.toInt + (days.toNat + 1) * Calendar.secondsPerDay) := by
  simp only [openLoanUsage, Plan.value?_bind_iff, Plan.value?_ofExcept_iff]
  constructor
  · rintro ⟨usage, common, hcommon, day, hday, -⟩
    have htrades := exists_commonUsage_iff.mp ⟨common, hcommon⟩
    exact ⟨htrades, (Calendar.exists_maturityDay_iff htrades.today).mp ⟨day, hday⟩⟩
  · rintro ⟨htrades, hmatures⟩
    obtain ⟨common, hcommon⟩ : ∃ common, (market.commonUsage owner).value? = some common :=
      exists_commonUsage_iff.mpr htrades
    obtain ⟨day, hday⟩ := (Calendar.exists_maturityDay_iff htrades.today).mpr hmatures
    obtain ⟨time, htime⟩ := Calendar.exists_dayText_of_maturityDay hday
    obtain ⟨account, haccount⟩ := market.exists_dayAccount htime
    exact ⟨_, common, hcommon, day, hday, account, haccount, rfl⟩

/-- The accounts of a change of a loan can be worked out exactly if the market trades and the loan
matures in the calendar. -/
theorem exists_adjustLoanUsage_iff {loan : UserLoan} :
    (∃ usage, (market.adjustLoanUsage owner loan).value? = some usage) ↔
      market.Trades ∧ Calendar.Covers loan.endDate.toInt := by
  simp only [adjustLoanUsage, Plan.value?_bind_iff, Plan.value?_ofExcept_iff]
  constructor
  · rintro ⟨usage, common, hcommon, day, hday, -⟩
    exact ⟨exists_commonUsage_iff.mp ⟨common, hcommon⟩, (Calendar.dayText_eq_ok_iff.mp hday).1⟩
  · rintro ⟨htrades, hend⟩
    obtain ⟨common, hcommon⟩ : ∃ common, (market.commonUsage owner).value? = some common :=
      exists_commonUsage_iff.mpr htrades
    obtain ⟨day, hday⟩ := Calendar.exists_dayText hend
    obtain ⟨account, haccount⟩ := market.exists_dayAccount hday
    exact ⟨_, common, hcommon, day, hday, account, haccount, rfl⟩

/-- A loan can run some days longer: it ends in the calendar then, and what is left of it is no longer
than the longest term. -/
structure Extends (market : Market) (loan : UserLoan) (days : UInt64) : Prop where
  matures : Calendar.Covers loan.endDate.toInt
  ends : loan.endDate.toInt + days.toNat * Calendar.secondsPerDay ≤ Calendar.lastTimestamp
  term : (loan.endDate.toInt + days.toNat * Calendar.secondsPerDay - market.now.toInt).tdiv
    Calendar.secondsPerDay ≤ longestTerm

/-- In the calendar, nothing has to be cut off at the ends of the timestamps. -/
theorem extendedEnd_of_covers {loan : UserLoan} {days : UInt64} (hdays : days.toNat ≤ longestTerm)
    (hnow : Calendar.Covers market.now.toInt) (hend : Calendar.Covers loan.endDate.toInt) :
    market.extendedEnd loan days =
      let newEnd := loan.endDate.toInt + days.toNat * Calendar.secondsPerDay
      let remaining := (newEnd - market.now.toInt).tdiv Calendar.secondsPerDay
      if (longestTerm : Int) < remaining then throw (.input (.extendedTooFar remaining))
      else pure newEnd := by
  obtain ⟨hnowFirst, hnowLast⟩ := hnow
  obtain ⟨hendFirst, hendLast⟩ := hend
  have hextra := Calendar.fitsTimestamp_of_term hdays
  have hsum : min (loan.endDate.toInt + days.toNat * Calendar.secondsPerDay) lastInstant =
      loan.endDate.toInt + days.toNat * Calendar.secondsPerDay := by
    have hlast : lastInstant = 9223372036854775807 := by decide
    unfold longestTerm at hdays
    unfold Calendar.lastTimestamp at hendLast
    rw [hlast]
    unfold Calendar.secondsPerDay
    omega
  have hleft : Calendar.fitsTimestamp (loan.endDate.toInt + days.toNat * Calendar.secondsPerDay -
      market.now.toInt) = true := by
    rw [Calendar.fitsTimestamp_iff]
    unfold longestTerm at hdays
    unfold Calendar.lastTimestamp at hendLast hnowLast
    unfold Calendar.secondsPerDay
    omega
  unfold extendedEnd
  rw [if_neg (by simp [hextra]), hsum, if_neg (by simp [hleft])]
  dsimp only
  split
  · rfl
  · rfl

/-- A loan is extended to its end and so many days, if no more than the longest term is left to it
then, in whole days. -/
theorem value?_extendedEnd_iff {loan : UserLoan} {days : UInt64} {newEnd : Int}
    (hdays : days.toNat ≤ longestTerm) (hnow : Calendar.Covers market.now.toInt)
    (hend : Calendar.Covers loan.endDate.toInt) :
    (market.extendedEnd loan days).value? = some newEnd ↔
      (loan.endDate.toInt + days.toNat * Calendar.secondsPerDay - market.now.toInt).tdiv
          Calendar.secondsPerDay ≤ longestTerm ∧
        newEnd = loan.endDate.toInt + days.toNat * Calendar.secondsPerDay := by
  rw [extendedEnd_of_covers hdays hnow hend]
  dsimp only
  split
  · rename_i hterm
    exact ⟨nofun, fun h => absurd hterm (Int.not_lt.mpr h.1)⟩
  · rename_i hterm
    exact ⟨fun h => by cases h; exact ⟨Int.not_lt.mp hterm, rfl⟩, fun h => by rw [h.2]; rfl⟩

/-- The accounts of an extension can be worked out exactly if the market trades and the loan can run
that much longer. -/
theorem exists_extendLoanUsage_iff {loan : UserLoan} {days : UInt64}
    (hdays : days.toNat ≤ longestTerm) :
    (∃ usage, (market.extendLoanUsage owner loan days).value? = some usage) ↔
      market.Trades ∧ market.Extends loan days := by
  simp only [extendLoanUsage, Plan.value?_bind_iff, Plan.value?_ofExcept_iff]
  constructor
  · rintro ⟨usage, newEnd, hnewEnd, common, hcommon, oldDay, hold, newDay, hnew, -⟩
    have htrades := exists_commonUsage_iff.mp ⟨common, hcommon⟩
    have hend := (Calendar.dayText_eq_ok_iff.mp hold).1
    obtain ⟨hterm, rfl⟩ := (value?_extendedEnd_iff hdays htrades.today hend).mp hnewEnd
    exact ⟨htrades, hend, (Calendar.dayText_eq_ok_iff.mp hnew).1.2, hterm⟩
  · rintro ⟨htrades, hend, hlast, hterm⟩
    have hnewCovers : Calendar.Covers
        (loan.endDate.toInt + days.toNat * Calendar.secondsPerDay) := by
      refine ⟨?_, hlast⟩
      have := hend.1
      unfold Calendar.secondsPerDay
      omega
    obtain ⟨common, hcommon⟩ : ∃ common, (market.commonUsage owner).value? = some common :=
      exists_commonUsage_iff.mpr htrades
    obtain ⟨oldDay, hold⟩ := Calendar.exists_dayText hend
    obtain ⟨newDay, hnew⟩ := Calendar.exists_dayText hnewCovers
    obtain ⟨oldAccount, holdAccount⟩ := market.exists_dayAccount hold
    obtain ⟨newAccount, hnewAccount⟩ := market.exists_dayAccount hnew
    exact ⟨_, _, (value?_extendedEnd_iff hdays htrades.today hend).mpr ⟨hterm, rfl⟩, common, hcommon,
      oldDay, hold, newDay, hnew, oldAccount, holdAccount, newAccount, hnewAccount, rfl⟩

end Market

namespace Deployment

variable {deployment : Deployment} {owner : Key} {now : Int64} {batch : Batch}

/-- The state of the program is found in the accounts. -/
structure Finds (deployment : Deployment) (accounts : Accounts) (now : Int64) (market : Market) :
    Prop where
  config : accounts.Holds (Address.mainState deployment.program).1 market.config
  global : accounts.Holds (Address.globalStats deployment.program).1 market.global
  deployment : market.deployment = deployment
  now : market.now = now

/-- The state of the program that is read is the one that the accounts hold. -/
theorem valueOn_market_iff {market : Market} :
    valueOn snapshot (deployment.market now) = some market ↔
      deployment.Finds snapshot.accounts now market := by
  unfold Deployment.market Read.mainState Read.globalStats
  rw [valueOn_bind_iff]
  simp only [Read.valueOn_both, valueOn_pure_iff, Option.bind_eq_some_iff, Option.map_eq_some_iff,
    Read.value?_required_eq_some_iff]
  constructor
  · rintro ⟨_, ⟨config, hconfig, global, hglobal, rfl⟩, rfl⟩
    exact ⟨hconfig, hglobal, rfl, rfl⟩
  · rintro ⟨hconfig, hglobal, rfl, rfl⟩
    exact ⟨_, ⟨_, hconfig, _, hglobal, rfl⟩, rfl⟩

/-- A user's open loan is found in the accounts. -/
structure FindsLoan (deployment : Deployment) (accounts : Accounts) (owner : Key)
    (loan : UserLoan) : Prop where
  record : accounts.Holds (Address.userLoan deployment.program owner).1 loan
  isOpen : 0 < loan.borrowed

/-- The state of the program and the open loan of a user that are read are those that the accounts
hold. -/
theorem valueOn_marketAndLoan_iff {state : Market × UserLoan} :
    valueOn snapshot (deployment.marketAndLoan owner now) = some state ↔
      deployment.Finds snapshot.accounts now state.1 ∧
        deployment.FindsLoan snapshot.accounts owner state.2 := by
  unfold Deployment.marketAndLoan Read.mainState Read.globalStats
  rw [valueOn_bind_iff]
  simp only [Read.valueOn_allThree, valueOn_pure_iff, Option.bind_eq_some_iff,
    Option.map_eq_some_iff, Read.value?_required_eq_some_iff, Read.value?_openLoan_eq_some_iff]
  constructor
  · rintro ⟨_, ⟨config, hconfig, global, hglobal, loan, ⟨hloan, hopen⟩, rfl⟩, rfl⟩
    exact ⟨⟨hconfig, hglobal, rfl, rfl⟩, hloan, hopen⟩
  · rintro ⟨⟨hconfig, hglobal, hdeployment, rfl⟩, hloan, hopen⟩
    refine ⟨_, ⟨_, hconfig, _, hglobal, _, ⟨hloan, hopen⟩, rfl⟩, ?_⟩
    rw [← hdeployment]

open InstructionKind (initMainState updateMainState flashClosePosition)

/-- The batch that sets the program up, and when there is one. -/
theorem valueOn_setUp_iff {admin receiver quoteMint : Key} {buyFee sellFee leverageFee : String} :
    valueOn snapshot (deployment.setUp admin receiver quoteMint buyFee sellFee leverageFee) =
        some batch ↔
      ∃ sellRate, Fee.parse .sell sellFee = .ok sellRate ∧
      ∃ buyRate, Fee.parse .buy buyFee = .ok buyRate ∧
      ∃ leverageRate, Fee.parse .leverage leverageFee = .ok leverageRate ∧
      snapshot.accounts.get? (Address.mainState deployment.program).1 = none ∧
      batch = deployment.batch initMainState admin
        (Market.setUpAccounts deployment.program admin quoteMint)
        (initMainState.encode .setUp ⟨receiver, sellRate, buyRate, leverageRate⟩) := by
  have habsent (present : Option MainState) : ¬ present.isSome = true ↔ present = none := by
    cases present <;> simp
  simp only [setUp, valueOn_bind_iff, valueOn_ofInput_iff,
    Read.valueOn_perform, valueOn_guard_iff, valueOn_pure_iff, habsent]
  simp [Read.value?_optional_eq_none_iff]

/-- The batch that changes the configuration, and when there is one. -/
theorem valueOn_update_iff {admin : Key} {change : ConfigChange} :
    valueOn snapshot (deployment.update admin change) = some batch ↔
      ∃ args, change.arguments = .ok args ∧
      ∃ config : MainState,
        snapshot.accounts.Holds (Address.mainState deployment.program).1 config ∧
      config.admin = admin ∧ args.stakeToken.getD config.stakeToken ≠ Key.unset ∧
      batch = deployment.batch updateMainState admin
        (Market.updateAccounts deployment.program admin
          (args.stakeToken.getD config.stakeToken))
        (updateMainState.encode .update args) := by
  simp only [update, valueOn_bind_iff, valueOn_ofInput_iff,
    Read.valueOn_perform, valueOn_guard_iff, valueOn_pure_iff, Read.mainState,
    Read.value?_required_eq_some_iff, not_not, ne_eq]

/-- The batch that opens trading, and when there is one. The key of its mint is a fresh one. -/
theorem valueOn_start_iff {admin : Key} {amount name symbol uri : String} :
    valueOn snapshot (deployment.start admin now amount name symbol uri) = some batch ↔
      ∃ market, deployment.Finds snapshot.accounts now market ∧
      market.global.baseToken = Key.unset ∧
      ∃ raw, valueOn snapshot (market.units .quote amount) = some raw ∧
      batch = { deployment.batch .start admin (market.startAccounts admin snapshot.fresh.key)
        (InstructionKind.start.encode .start ⟨raw, name, symbol, uri⟩) with
          cosigners := [snapshot.fresh] } := by
  have hunset (global : GlobalStats) :
      ¬ global.baseMint?.isSome = true ↔ global.baseToken = Key.unset := by
    unfold GlobalStats.baseMint? Key.set?
    split <;> simp_all
  simp only [start, valueOn_bind_iff, valueOn_market_iff, valueOn_guard_iff, valueOn_freshKey,
    valueOn_pure_iff, hunset, Option.some.injEq, exists_eq_left']

/-- The batch that buys, and when there is one. -/
theorem valueOn_buy_iff {amount : String} :
    valueOn snapshot (deployment.buy owner now amount) = some batch ↔
      ∃ market, deployment.Finds snapshot.accounts now market ∧
      ∃ raw, valueOn snapshot (market.units .quote amount) = some raw ∧
      ∃ usage, (market.commonUsage owner).value? = some usage ∧
      batch = deployment.batchOnDays .buy owner usage (InstructionKind.buy.encode .amount raw) := by
  simp only [buy, valueOn_bind_iff, valueOn_market_iff, valueOn_plan, valueOn_pure_iff]

/-- The batch that buys with a referral, and when there is one. It makes the account of the referral
first, if there is none. -/
theorem valueOn_buyWithReferral_iff {amount : String} {referral : Key} :
    valueOn snapshot (deployment.buyWithReferral owner now amount referral) = some batch ↔
      referral ≠ owner ∧
      ∃ market, deployment.Finds snapshot.accounts now market ∧
      ∃ raw, valueOn snapshot (market.units .quote amount) = some raw ∧
      ∃ usage, (market.commonUsage owner).value? = some usage ∧
      batch = { Batch.headed .buyWithReferral owner [
          .makeHolder owner (market.quoteHolder referral) referral market.config.quoteToken
            market.deployment.tokenPrograms.quote,
          ⟨deployment.program, usage.accounts ++ market.referralAccounts referral,
            InstructionKind.buyWithReferral.encode .referralAmount (referral, raw)⟩] with
          days := usage.days } := by
  simp only [buyWithReferral, valueOn_guard_iff, valueOn_bind_iff, valueOn_market_iff, valueOn_plan,
    valueOn_pure_iff, ne_eq]

/-- The batch that sells, and when there is one. -/
theorem valueOn_sell_iff {amount : String} :
    valueOn snapshot (deployment.sell owner now amount) = some batch ↔
      ∃ market, deployment.Finds snapshot.accounts now market ∧
      ∃ raw, valueOn snapshot (market.units .base amount) = some raw ∧
      ∃ usage, (market.commonUsage owner).value? = some usage ∧
      batch = deployment.batchOnDays .sell owner usage
        (InstructionKind.sell.encode .amount raw) := by
  simp only [sell, valueOn_bind_iff, valueOn_market_iff, valueOn_plan, valueOn_pure_iff]

/-- The batch that liquidates, and when there is one. -/
theorem valueOn_liquidate_iff :
    valueOn snapshot (deployment.liquidate owner now) = some batch ↔
      ∃ market, deployment.Finds snapshot.accounts now market ∧
      ∃ usage, (market.commonUsage owner).value? = some usage ∧
      batch = deployment.batchOnDays .liquidate owner usage
        (InstructionKind.liquidate.encode .unit ()) := by
  simp only [liquidate, valueOn_bind_iff, valueOn_market_iff, valueOn_plan, valueOn_pure_iff]

/-- The batch that takes a loan, and when there is one. -/
theorem valueOn_openLoan_iff {kind : InstructionKind} {amount : String} {days : UInt64} :
    valueOn snapshot (deployment.openLoan kind owner now amount days) = some batch ↔
      ∃ market, deployment.Finds snapshot.accounts now market ∧
      ∃ raw, valueOn snapshot (market.units .quote amount) = some raw ∧
      ∃ usage, (market.openLoanUsage owner days).value? = some usage ∧
      batch = deployment.batchOnDays kind owner usage (kind.encode .daysAmount (days, raw)) := by
  simp only [openLoan, valueOn_bind_iff, valueOn_market_iff, valueOn_plan, valueOn_pure_iff]

/-- The batch that changes a loan by an amount, and when there is one. -/
theorem valueOn_adjustLoan_iff {kind : InstructionKind} {asset : Asset} {amount : String} :
    valueOn snapshot (deployment.adjustLoan kind owner now asset amount) = some batch ↔
      ∃ market loan, (deployment.Finds snapshot.accounts now market ∧
        deployment.FindsLoan snapshot.accounts owner loan) ∧
      ∃ raw, valueOn snapshot (market.units asset amount) = some raw ∧
      ∃ usage, (market.adjustLoanUsage owner loan).value? = some usage ∧
      batch = deployment.batchOnDays kind owner usage (kind.encode .amount raw) := by
  simp only [adjustLoan, valueOn_bind_iff, valueOn_marketAndLoan_iff, valueOn_plan,
    valueOn_pure_iff, Prod.exists]

/-- The batch that pays a loan back from its own collateral, and when there is one. -/
theorem valueOn_flashClose_iff :
    valueOn snapshot (deployment.flashClose owner now) = some batch ↔
      ∃ market loan, (deployment.Finds snapshot.accounts now market ∧
        deployment.FindsLoan snapshot.accounts owner loan) ∧
      ∃ usage, (market.adjustLoanUsage owner loan).value? = some usage ∧
      batch = deployment.batchOnDays flashClosePosition owner usage
        (flashClosePosition.encode .unit ()) := by
  simp only [flashClose, valueOn_bind_iff, valueOn_marketAndLoan_iff, valueOn_plan,
    valueOn_pure_iff, Prod.exists]

/-- The batch that extends a loan, and when there is one. -/
theorem valueOn_extendLoan_iff {days : UInt64} :
    valueOn snapshot (deployment.extendLoan owner now days) = some batch ↔
      ∃ market loan, (deployment.Finds snapshot.accounts now market ∧
        deployment.FindsLoan snapshot.accounts owner loan) ∧
      ∃ usage, (market.extendLoanUsage owner loan days).value? = some usage ∧
      batch = deployment.batchOnDays .extendLoan owner usage
        (InstructionKind.extendLoan.encode .u64 days) := by
  simp only [extendLoan, valueOn_bind_iff, valueOn_marketAndLoan_iff, valueOn_plan,
    valueOn_pure_iff, Prod.exists]

/-- The batch that stakes, and when there is one. -/
theorem valueOn_stake_iff {amount : String} :
    valueOn snapshot (deployment.stake owner now amount) = some batch ↔
      ∃ market, deployment.Finds snapshot.accounts now market ∧
      ∃ token program, market.staking = .ok (token, program) ∧
      ∃ raw, valueOn snapshot (market.units .base amount) = some raw ∧
      ∃ mint, market.baseMint = .ok mint ∧
      batch = deployment.batch .stake owner (market.stakeAccounts owner token program mint)
        (InstructionKind.stake.encode .amount raw) := by
  simp only [stake, valueOn_bind_iff, valueOn_market_iff, valueOn_ofInput_iff,
    valueOn_pure_iff, Prod.exists]

/-- The batch that takes a stake back, and when there is one. -/
theorem valueOn_unstake_iff {amount : String} :
    valueOn snapshot (deployment.unstake owner now amount) = some batch ↔
      ∃ market, deployment.Finds snapshot.accounts now market ∧
      ∃ token program, market.staking = .ok (token, program) ∧
      ∃ raw, valueOn snapshot (market.units .base amount) = some raw ∧
      ∃ mint, market.baseMint = .ok mint ∧
      batch = deployment.batch .unstake owner (market.unstakeAccounts owner token program mint)
        (InstructionKind.unstake.encode .amount raw) := by
  simp only [unstake, valueOn_bind_iff, valueOn_market_iff, valueOn_ofInput_iff,
    valueOn_pure_iff, Prod.exists]

end Deployment

end LendingClient
