import LendingClient.Proofs.Operation.Breaking
import LendingClient.Proofs.Operation.Outline
import LendingClient.Proofs.Operation.Reading

/-!
# The totals of days that a batch names

The accounts of an instruction and the days of its batch are put together apart from each other. They
agree all the same: at certain places, which depend on the operation alone, stand the totals of
exactly the days that the batch tells, in their order. These days follow from the clock, from the
instant up to which loans are settled and from the end of the user's loan. The totals themselves are
never looked at, and they need not exist.
-/

namespace LendingClient

open LendingClient.Action ScriptedLedger

namespace Operation

/-- Where the totals of days stand among the accounts of the program's instruction. -/
def bucketPlaces : Operation → List Nat
  | .buy .. | .sell _ | .liquidate => [3, 4]
  | .borrow .. | .leverage .. => [3, 4, 20]
  | .borrowMore _ | .repay _ | .removeCollateral _ | .closePosition _ | .flashClosePosition =>
    [3, 4, 19]
  | .extendLoan _ => [3, 4, 20, 21]
  | .setUp .. | .update _ | .start .. | .stake _ | .unstake _ => []

/-- Whether an operation is about the loan that the user has. -/
def continuesLoan : Operation → Bool
  | .borrowMore _ | .repay _ | .removeCollateral _ | .closePosition _ | .flashClosePosition
  | .extendLoan _ => true
  | _ => false

/-- The days whose totals an operation touches, worked out from the present instant, from the instant
up to which loans are settled, and from the end of the user's loan. -/
def bucketDays (now settled endDate : Int) : Operation → List (Except Error String)
  | .buy .. | .sell _ | .liquidate => [Calendar.dayText now, Calendar.dayText settled]
  | .borrow _ days | .leverage _ days =>
    [Calendar.dayText now, Calendar.dayText settled, Calendar.maturityDay now days]
  | .borrowMore _ | .repay _ | .removeCollateral _ | .closePosition _ | .flashClosePosition =>
    [Calendar.dayText now, Calendar.dayText settled, Calendar.dayText endDate]
  | .extendLoan days =>
    [Calendar.dayText now, Calendar.dayText settled, Calendar.dayText endDate,
      Calendar.dayText (endDate + days.toNat * Calendar.secondsPerDay)]
  | .setUp .. | .update _ | .start .. | .stake _ | .unstake _ => []

end Operation

/-- At a place among some accounts stand the totals of a day. They may be changed, and nobody signs
for them. -/
def BucketAt (program : Key) (accounts : List AccountUse) (place : Nat) (day : String) : Prop :=
  ∃ address bump, Address.dailyStats program day = .ok (address, bump) ∧
    accounts[place]? = some { key := address, signs := false, writable := true }

/-- The totals of a day keep their place when further accounts are named behind them. -/
theorem BucketAt.append {program : Key} {accounts : List AccountUse} {place : Nat} {day : String}
    (h : BucketAt program accounts place day) (more : List AccountUse) :
    BucketAt program (accounts ++ more) place day := by
  obtain ⟨address, bump, hday, hplace⟩ := h
  obtain ⟨hlt, -⟩ := List.getElem?_eq_some_iff.mp hplace
  exact ⟨address, bump, hday, (List.getElem?_append_left hlt).trans hplace⟩

namespace Market

variable {market : Market} {owner : Key} {usage : Usage} {program : Key} {places : List Nat}
  {days : List (Except Error String)}

/-- The account that is worked out for a day is that of its totals. -/
private theorem bucketAt_of_dayAccount {day : String} {account : AccountUse}
    {accounts : List AccountUse} {place : Nat} (h : (market.dayAccount day).value? = some account)
    (hplace : accounts[place]? = some account) : BucketAt market.program accounts place day := by
  obtain ⟨⟨address, bump⟩, hfound, haccount⟩ := Plan.value?_bind_iff.mp h
  cases haccount
  refine ⟨address, bump, ?_, hplace⟩
  cases hday : Address.dailyStats market.program day with
  | error why =>
    rw [hday] at hfound
    cases hfound
  | ok found =>
    rw [hday] at hfound
    cases hfound
    rfl

/-- At certain places of a usage stand the totals of its days, and the days are these. -/
structure Usage.Buckets (usage : Usage) (program : Key) (places : List Nat)
    (days : List (Except Error String)) : Prop where
  placed : List.Forall₂ (BucketAt program usage.accounts) places usage.days
  days : usage.days.map Except.ok = days

/-- Further days stand behind those of a usage. -/
theorem Usage.Buckets.append {more : List AccountUse} {morePlaces : List Nat}
    {moreDays : List String} {further : List (Except Error String)}
    (h : usage.Buckets program places days)
    (hmore : List.Forall₂ (BucketAt program (usage.accounts ++ more)) morePlaces moreDays)
    (hfurther : moreDays.map Except.ok = further) :
    Usage.Buckets ⟨usage.accounts ++ more, usage.days ++ moreDays⟩ program (places ++ morePlaces)
      (days ++ further) := by
  have hkept : List.Forall₂ (BucketAt program (usage.accounts ++ more)) places usage.days :=
    h.placed.imp fun _ _ hbucket => hbucket.append more
  refine ⟨List.rel_append hkept hmore, ?_⟩
  rw [List.map_append, h.days, hfurther]

/-- An account behind those that every trade uses. -/
theorem getElem?_append_common {more : List AccountUse}
    (h : (market.commonUsage owner).value? = some usage) (place : Nat) :
    (usage.accounts ++ more)[19 + place]? = more[place]? := by
  have hlength := (lists_commonUsage h).length
  rw [List.getElem?_append_right (by omega), hlength, Nat.add_sub_cancel_left]

/-- A trade touches the totals of the present day and of the day up to which loans are settled. -/
theorem buckets_commonUsage (h : (market.commonUsage owner).value? = some usage) :
    usage.Buckets market.program [3, 4] [Calendar.dayText market.now.toInt,
      Calendar.dayText market.global.lastLiquidationDate.toInt] := by
  obtain ⟨mint, -, h⟩ := Plan.value?_bind_iff.mp h
  obtain ⟨today, htoday, h⟩ := Plan.value?_bind_iff.mp h
  obtain ⟨settled, hsettled, h⟩ := Plan.value?_bind_iff.mp h
  obtain ⟨todayAccount, htodayAccount, h⟩ := Plan.value?_bind_iff.mp h
  obtain ⟨settledAccount, hsettledAccount, h⟩ := Plan.value?_bind_iff.mp h
  cases h
  rw [Plan.value?_ofExcept_iff] at htoday hsettled
  rw [htoday, hsettled]
  refine ⟨.cons ?_ (.cons ?_ .nil), rfl⟩
  · exact bucketAt_of_dayAccount htodayAccount rfl
  · exact bucketAt_of_dayAccount hsettledAccount rfl

/-- A new loan touches the totals of the day on which it matures, behind those of every trade. -/
theorem buckets_openLoanUsage {term : UInt64}
    (h : (market.openLoanUsage owner term).value? = some usage) :
    usage.Buckets market.program [3, 4, 20] [Calendar.dayText market.now.toInt,
      Calendar.dayText market.global.lastLiquidationDate.toInt,
      Calendar.maturityDay market.now.toInt term] := by
  obtain ⟨common, hcommon, h⟩ := Plan.value?_bind_iff.mp h
  obtain ⟨endDay, hend, h⟩ := Plan.value?_bind_iff.mp h
  obtain ⟨endAccount, haccount, h⟩ := Plan.value?_bind_iff.mp h
  cases h
  rw [Plan.value?_ofExcept_iff] at hend
  rw [hend]
  refine (buckets_commonUsage hcommon).append (.cons ?_ .nil) rfl
  exact bucketAt_of_dayAccount haccount (getElem?_append_common hcommon 1)

/-- A change to a loan touches the totals of the day on which the loan ends, behind those of every
trade. -/
theorem buckets_adjustLoanUsage {loan : UserLoan}
    (h : (market.adjustLoanUsage owner loan).value? = some usage) :
    usage.Buckets market.program [3, 4, 19] [Calendar.dayText market.now.toInt,
      Calendar.dayText market.global.lastLiquidationDate.toInt,
      Calendar.dayText loan.endDate.toInt] := by
  obtain ⟨common, hcommon, h⟩ := Plan.value?_bind_iff.mp h
  obtain ⟨endDay, hend, h⟩ := Plan.value?_bind_iff.mp h
  obtain ⟨endAccount, haccount, h⟩ := Plan.value?_bind_iff.mp h
  cases h
  rw [Plan.value?_ofExcept_iff] at hend
  rw [hend]
  refine (buckets_commonUsage hcommon).append (.cons ?_ .nil) rfl
  exact bucketAt_of_dayAccount haccount (getElem?_append_common hcommon 0)

/-- A longer term touches the totals of the days on which the loan ends before and after, behind
those of every trade. -/
theorem buckets_extendLoanUsage {loan : UserLoan} {extra : UInt64}
    (hterm : extra.toNat ≤ longestTerm)
    (h : (market.extendLoanUsage owner loan extra).value? = some usage) :
    usage.Buckets market.program [3, 4, 20, 21] [Calendar.dayText market.now.toInt,
      Calendar.dayText market.global.lastLiquidationDate.toInt,
      Calendar.dayText loan.endDate.toInt,
      Calendar.dayText (loan.endDate.toInt + extra.toNat * Calendar.secondsPerDay)] := by
  obtain ⟨newEnd, hnewEnd, h⟩ := Plan.value?_bind_iff.mp h
  obtain ⟨common, hcommon, h⟩ := Plan.value?_bind_iff.mp h
  obtain ⟨oldDay, hold, h⟩ := Plan.value?_bind_iff.mp h
  obtain ⟨newDay, hnew, h⟩ := Plan.value?_bind_iff.mp h
  obtain ⟨oldAccount, holdAccount, h⟩ := Plan.value?_bind_iff.mp h
  obtain ⟨newAccount, hnewAccount, h⟩ := Plan.value?_bind_iff.mp h
  cases h
  rw [Plan.value?_ofExcept_iff] at hold hnew
  have hnow := (exists_commonUsage_iff.mp ⟨common, hcommon⟩).today
  have hmatures := (Calendar.dayText_eq_ok_iff.mp hold).1
  obtain ⟨-, rfl⟩ := (value?_extendedEnd_iff hterm hnow hmatures).mp hnewEnd
  rw [hold, hnew]
  refine (buckets_commonUsage hcommon).append (.cons ?_ (.cons ?_ .nil)) rfl
  · exact bucketAt_of_dayAccount holdAccount (getElem?_append_common hcommon 1)
  · exact bucketAt_of_dayAccount hnewAccount (getElem?_append_common hcommon 2)

end Market

/-- The program's instruction names the totals of exactly the days that the batch tells, in their
order. The days are worked out from the clock, the counters and the user's loan. -/
structure Batch.NamesBuckets (batch : Batch) (deployment : Deployment) (operation : Operation)
    (owner : Key) (now : Int64) (accounts : Accounts) : Prop where
  placed : ∃ call, batch.programInstruction? = some call ∧ call.program = deployment.program ∧
    List.Forall₂ (BucketAt deployment.program call.accounts) operation.bucketPlaces batch.days
  derived : ∃ settled endDate : Int64,
    batch.days.map Except.ok = operation.bucketDays now.toInt settled.toInt endDate.toInt ∧
    (operation.bucketPlaces ≠ [] → ∃ global : GlobalStats,
      accounts.Holds (Address.globalStats deployment.program).1 global ∧
        global.lastLiquidationDate = settled) ∧
    (operation.continuesLoan = true → ∃ loan,
      deployment.FindsLoan accounts owner loan ∧ loan.endDate = endDate)

namespace Deployment

variable {deployment : Deployment} {operation : Operation} {owner : Key} {now : Int64}
  {snapshot : Snapshot} {batch : Batch}

/-- A batch names the totals of the days of the usage that it is made from. Further accounts may
stand behind those of the usage. -/
theorem namesBuckets_of_usage {accounts : Accounts} {market : Market} {usage : Market.Usage}
    {more : List AccountUse} {data : Bytes} (endDate : Int64)
    (hmarket : deployment.Finds accounts now market)
    (hcall : batch.programInstruction? =
      some ⟨deployment.program, usage.accounts ++ more, data⟩)
    (hdays : batch.days = usage.days)
    (husage : usage.Buckets market.program operation.bucketPlaces (operation.bucketDays
      market.now.toInt market.global.lastLiquidationDate.toInt endDate.toInt))
    (hloan : operation.continuesLoan = true → ∃ loan,
      deployment.FindsLoan accounts owner loan ∧ loan.endDate = endDate) :
    batch.NamesBuckets deployment operation owner now accounts := by
  have hprogram : market.program = deployment.program := by rw [Market.program, hmarket.deployment]
  obtain ⟨hplaced, hderived⟩ := husage
  rw [hprogram] at hplaced
  rw [hmarket.now] at hderived
  refine ⟨⟨_, hcall, rfl, ?_⟩, _, _, ?_, fun _ => ⟨market.global, hmarket.global, rfl⟩, hloan⟩
  · rw [hdays]
    exact hplaced.imp fun _ _ hbucket => hbucket.append more
  · rw [hdays, hderived]

/-- A batch that is made from a usage names the totals of its days. -/
private theorem namesBuckets_batchOnDays {accounts : Accounts} {market : Market}
    {usage : Market.Usage} {kind : InstructionKind} {data : Bytes} (endDate : Int64)
    (hmarket : deployment.Finds accounts now market)
    (husage : usage.Buckets market.program operation.bucketPlaces (operation.bucketDays
      market.now.toInt market.global.lastLiquidationDate.toInt endDate.toInt))
    (hloan : operation.continuesLoan = true → ∃ loan,
      deployment.FindsLoan accounts owner loan ∧ loan.endDate = endDate) :
    (deployment.batchOnDays kind owner usage data).NamesBuckets deployment operation owner now
      accounts := by
  have hcall : (deployment.batchOnDays kind owner usage data).programInstruction? =
      some ⟨deployment.program, usage.accounts ++ [], data⟩ := by
    rw [List.append_nil]
    rfl
  exact namesBuckets_of_usage endDate hmarket hcall rfl husage hloan

/-- A batch that names no days. -/
theorem namesBuckets_of_nil {accounts : Accounts} {call : Instruction}
    (hcall : batch.programInstruction? = some call) (hprogram : call.program = deployment.program)
    (hdays : batch.days = []) (hplaces : operation.bucketPlaces = [])
    (hnone : ∀ now settled endDate, operation.bucketDays now settled endDate = [])
    (hloan : operation.continuesLoan = false) :
    batch.NamesBuckets deployment operation owner now accounts := by
  refine ⟨⟨call, hcall, hprogram, ?_⟩, 0, 0, ?_, fun h => absurd hplaces h, fun h => ?_⟩
  · rw [hplaces, hdays]
    exact .nil
  · rw [hdays, hnone]
    rfl
  · rw [hloan] at h
    cases h

/-- The batch that building comes to on a snapshot names the totals of the days of its operation. -/
theorem namesBuckets_of_valueOn
    (h : valueOn snapshot (deployment.build operation owner now) = some batch) :
    batch.NamesBuckets deployment operation owner now snapshot.accounts := by
  obtain ⟨_, hvalid, hbatch⟩ := valueOn_bind_iff.mp h
  rw [valueOn_ofInput_iff, Operation.validate_ok_iff] at hvalid
  cases operation with
  | setUp =>
    obtain ⟨_, -, _, -, _, -, -, rfl⟩ := valueOn_setUp_iff.mp hbatch
    exact namesBuckets_of_nil rfl rfl rfl rfl (fun _ _ _ => rfl) rfl
  | update =>
    obtain ⟨_, -, _, -, -, -, rfl⟩ := valueOn_update_iff.mp hbatch
    exact namesBuckets_of_nil rfl rfl rfl rfl (fun _ _ _ => rfl) rfl
  | start =>
    obtain ⟨_, -, -, _, -, rfl⟩ := valueOn_start_iff.mp hbatch
    exact namesBuckets_of_nil rfl rfl rfl rfl (fun _ _ _ => rfl) rfl
  | buy amount referral =>
    cases referral with
    | none =>
      obtain ⟨market, hmarket, _, -, usage, husage, rfl⟩ := valueOn_buy_iff.mp hbatch
      exact namesBuckets_batchOnDays 0 hmarket (Market.buckets_commonUsage husage) nofun
    | some referral =>
      obtain ⟨-, market, hmarket, _, -, usage, husage, rfl⟩ := valueOn_buyWithReferral_iff.mp hbatch
      exact namesBuckets_of_usage 0 hmarket rfl rfl (Market.buckets_commonUsage husage) nofun
  | sell =>
    obtain ⟨market, hmarket, _, -, usage, husage, rfl⟩ := valueOn_sell_iff.mp hbatch
    exact namesBuckets_batchOnDays 0 hmarket (Market.buckets_commonUsage husage) nofun
  | liquidate =>
    obtain ⟨market, hmarket, usage, husage, rfl⟩ := valueOn_liquidate_iff.mp hbatch
    exact namesBuckets_batchOnDays 0 hmarket (Market.buckets_commonUsage husage) nofun
  | borrow | leverage =>
    obtain ⟨market, hmarket, _, -, usage, husage, rfl⟩ := valueOn_openLoan_iff.mp hbatch
    exact namesBuckets_batchOnDays 0 hmarket (Market.buckets_openLoanUsage husage) nofun
  | borrowMore | repay | removeCollateral | closePosition =>
    obtain ⟨market, loan, ⟨hmarket, hloan⟩, _, -, usage, husage, rfl⟩ :=
      valueOn_adjustLoan_iff.mp hbatch
    exact namesBuckets_batchOnDays loan.endDate hmarket (Market.buckets_adjustLoanUsage husage)
      fun _ => ⟨loan, hloan, rfl⟩
  | flashClosePosition =>
    obtain ⟨market, loan, ⟨hmarket, hloan⟩, usage, husage, rfl⟩ := valueOn_flashClose_iff.mp hbatch
    exact namesBuckets_batchOnDays loan.endDate hmarket (Market.buckets_adjustLoanUsage husage)
      fun _ => ⟨loan, hloan, rfl⟩
  | extendLoan =>
    obtain ⟨market, loan, ⟨hmarket, hloan⟩, usage, husage, rfl⟩ := valueOn_extendLoan_iff.mp hbatch
    have hbuckets := Market.buckets_extendLoanUsage hvalid.2 husage
    exact namesBuckets_batchOnDays loan.endDate hmarket hbuckets fun _ => ⟨loan, hloan, rfl⟩
  | stake =>
    obtain ⟨_, -, _, _, -, _, -, _, -, rfl⟩ := valueOn_stake_iff.mp hbatch
    exact namesBuckets_of_nil rfl rfl rfl rfl (fun _ _ _ => rfl) rfl
  | unstake =>
    obtain ⟨_, -, _, _, -, _, -, _, -, rfl⟩ := valueOn_unstake_iff.mp hbatch
    exact namesBuckets_of_nil rfl rfl rfl rfl (fun _ _ _ => rfl) rfl

/-- Whatever the clock says and the accounts hold, the instruction of a batch names the totals of
exactly the days that the batch tells, at the places that its operation has for them and in the
order of the days, as accounts that may be changed and that nobody signs for. Today comes first, and
then the day up to which loans are settled. All days are worked out: of accounts, only the records
that the operation depends on are read, and the mint that its amount is measured by. -/
theorem build_namesBuckets (deployment : Deployment) (operation : Operation) (owner : Key)
    (now : Int64) (ledger : ScriptedLedger) (batch : Batch)
    (h : (ledger.run (deployment.build operation owner now)).1 = .ok (.ok batch)) :
    batch.NamesBuckets deployment operation owner now ledger.accounts ∧
    ∃ mint? : Option Key,
      (∀ mint ∈ mint?, deployment.MeasuredBy operation now ledger.accounts mint) ∧
      ledger.OnlyRead (ledger.run (deployment.build operation owner now)).2
        (deployment.records owner operation ++ mint?.toList) :=
  ⟨namesBuckets_of_valueOn (deployment.valueOn_build_of_play h),
    deployment.onlyRead_build operation owner now ledger⟩

/-- An extension on the sample ledger names the totals of four days. -/
theorem build_namesBuckets_openLedger : ∃ batch call,
    ((openLedger 1701000000).run (sample.build (.extendLoan 5) (Octets.filled 32 7)
      1700000000)).1 = .ok (.ok batch) ∧
    batch.programInstruction? = some call ∧
    List.Forall₂ (BucketAt sample.program call.accounts) [3, 4, 20, 21] batch.days ∧
    batch.days = ["2023-11-14", "2023-11-13", "2023-11-26", "2023-12-01"] := by
  have hbuilt : ((openLedger 1701000000).run (sample.build (.extendLoan 5) (Octets.filled 32 7)
      1700000000)).1.map (·.map (·.days)) =
        .ok (.ok ["2023-11-14", "2023-11-13", "2023-11-26", "2023-12-01"]) := by
    decide +kernel
  generalize hrun : ((openLedger 1701000000).run (sample.build (.extendLoan 5)
    (Octets.filled 32 7) 1700000000)).1 = result at hbuilt
  obtain why | error | batch := result
  · cases hbuilt
  · cases hbuilt
  · obtain ⟨⟨⟨call, hcall, -, hplaced⟩, -⟩, -⟩ := build_namesBuckets sample (.extendLoan 5)
      (Octets.filled 32 7) 1700000000 (openLedger 1701000000) batch hrun
    exact ⟨batch, call, rfl, hcall, hplaced, Except.ok.inj (Except.ok.inj hbuilt)⟩

end Deployment

end LendingClient
