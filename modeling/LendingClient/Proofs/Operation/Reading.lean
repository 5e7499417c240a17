import LendingClient.Proofs.Operation.Settling
import LendingClient.Proofs.Run.Reading

/-!
# What building reads

Building reads the records that the operation depends on, and then the mint of the amount's asset if
its decimal places are not configured. It reads nothing else, whatever the accounts hold and whether
or not it comes to a batch: the totals of days are named in a batch without being looked at.
-/

namespace LendingClient

open LendingClient.Action ScriptedLedger

variable {snapshot : Snapshot}

namespace Read

-- The first three are about any address, since comparing a derived one with its definition means
-- searching for its further byte.
private theorem address_mk {α : Type} (address : Key) (interpret : Option Bytes → Except Error α) :
    (Read.mk address interpret).address = address :=
  rfl

private theorem address_required (α : Type) [Record α] (address : Key) :
    (required α address).address = address :=
  rfl

private theorem address_optional (α : Type) [Record α] (address : Key) :
    (optional α address).address = address :=
  rfl

variable (program owner : Key)

/-- The configuration is read from its derived address. -/
theorem address_mainState : (mainState program).address = (Address.mainState program).1 :=
  address_required MainState _

/-- The counters are read from their derived address. -/
theorem address_globalStats : (globalStats program).address = (Address.globalStats program).1 :=
  address_required GlobalStats _

/-- The loan of a user is read from its derived address. -/
theorem address_openLoan :
    (openLoan program owner).address = (Address.userLoan program owner).1 :=
  address_mk _ _

end Read

/-- The asset that the amount of an operation is given in. -/
def Operation.asset? : Operation → Option Asset
  | .start .. | .buy .. | .borrow .. | .borrowMore _ | .leverage .. | .repay _
  | .closePosition _ => some .quote
  | .sell _ | .removeCollateral _ | .stake _ | .unstake _ => some .base
  | .setUp .. | .update _ | .extendLoan _ | .flashClosePosition | .liquidate => none

namespace Market

variable (market : Market)

/-- The mint that the decimal places of an asset are read from, unless they are configured. -/
def readMint? (asset : Asset) : Option Key :=
  match market.deployment.scales with
  | some _ => none
  | none => (market.mint asset).toOption

/-- A mint is read if no decimal places are configured, and then it is that of the asset. -/
private theorem readMint?_eq_some_iff {asset : Asset} {mint : Key} :
    market.readMint? asset = some mint ↔
      market.deployment.scales = none ∧ market.mint asset = .ok mint := by
  unfold readMint?
  cases market.deployment.scales with
  | some scales => exact ⟨nofun, fun h => nomatch h.1⟩
  | none => rw [toOption_eq_some_iff, and_iff_right rfl]

private theorem reads_decimals (asset : Asset) :
    Reads snapshot (market.readMint? asset).toList (market.decimals asset) := by
  unfold decimals readMint?
  cases market.deployment.scales with
  | some scales => exact .pure _
  | none =>
    refine .plan_bind fun mint hmint => ?_
    have hread : Reads snapshot [mint] (Read.decimals mint).perform :=
      Read.reads_perform (Read.decimals mint)
    rw [Plan.value?_ofInput_iff] at hmint
    rwa [hmint]

private theorem reads_units (asset : Asset) (input : String) :
    Reads snapshot (market.readMint? asset).toList (market.units asset input) :=
  .bind_nil (market.steady_decimals asset) (market.reads_decimals asset) fun _ => .plan _

/-- What is worked out from an amount reads the mint at most. -/
theorem reads_units_bind {α : Type} {f : UInt64 → Action α} (asset : Asset) (input : String)
    (hf : ∀ units, Reads snapshot [] (f units)) :
    Reads snapshot (market.readMint? asset).toList (market.units asset input >>= f) :=
  .bind_nil (market.steady_units asset input) (market.reads_units asset input) hf

private theorem reads_units_plan {α β : Type} {plan : Plan α} {f : UInt64 → α → β} (asset : Asset)
    (input : String) :
    Reads snapshot (market.readMint? asset).toList
      (market.units asset input >>= fun units => liftM plan >>= fun value => pure (f units value)) :=
  market.reads_units_bind asset input fun _ => .plan_bind fun _ _ => .pure _

end Market

namespace Deployment

variable (deployment : Deployment) (operation : Operation) (owner : Key) (now : Int64)

/-- The records that an operation depends on, in the order in which they are read. -/
def records : Operation → List Key
  | .setUp .. | .update _ => [(Address.mainState deployment.program).1]
  | .borrowMore _ | .extendLoan _ | .repay _ | .removeCollateral _ | .closePosition _
  | .flashClosePosition =>
    [(Address.mainState deployment.program).1, (Address.globalStats deployment.program).1,
      (Address.userLoan deployment.program owner).1]
  | .start .. | .buy .. | .sell _ | .borrow .. | .leverage .. | .liquidate | .stake _
  | .unstake _ =>
    [(Address.mainState deployment.program).1, (Address.globalStats deployment.program).1]

/-- The mint that has to be read to find the units of an operation's amount: that of the amount's
asset, as the records name it, if the decimal places are not configured. -/
def MeasuredBy (accounts : Accounts) (mint : Key) : Prop :=
  deployment.scales = none ∧ ∃ asset market, operation.asset? = some asset ∧
    deployment.Finds accounts now market ∧ market.mint asset = .ok mint

/-- An action reads the records that an operation depends on, and then the mint that its amount is
measured by, if there is one. -/
def Consults (snapshot : Snapshot) (action : Action Batch) : Prop :=
  ∃ mint? : Option Key,
    (∀ mint ∈ mint?, deployment.MeasuredBy operation now snapshot.accounts mint) ∧
    Reads snapshot (deployment.records owner operation ++ mint?.toList) action

variable {deployment operation owner now}

/-- An action that reads nothing but the records reads no mint. -/
private theorem Consults.of_reads {action : Action Batch}
    (h : Reads snapshot (deployment.records owner operation) action) :
    deployment.Consults operation owner now snapshot action := by
  refine ⟨none, nofun, ?_⟩
  rwa [Option.toList_none, List.append_nil]

private theorem reads_market :
    Reads snapshot [(Address.mainState deployment.program).1,
      (Address.globalStats deployment.program).1] (deployment.market now) := by
  have hreads : Reads snapshot _ _ :=
    Read.reads_both (.mainState deployment.program) (.globalStats deployment.program)
  rw [Read.address_mainState, Read.address_globalStats] at hreads
  exact .bind_nil (Read.steady_both _ _) hreads fun _ => .pure _

private theorem reads_marketAndLoan :
    Reads snapshot [(Address.mainState deployment.program).1,
      (Address.globalStats deployment.program).1, (Address.userLoan deployment.program owner).1]
      (deployment.marketAndLoan owner now) := by
  have hreads : Reads snapshot _ _ :=
    Read.reads_allThree (.mainState deployment.program) (.globalStats deployment.program)
      (.openLoan deployment.program owner)
  rw [Read.address_mainState, Read.address_globalStats, Read.address_openLoan] at hreads
  exact .bind_nil (Read.steady_allThree _ _ _) hreads fun _ => .pure _

/-- What follows the records reads the mint at most that they name. -/
theorem Consults.bind {α : Type} {state : Action α} {f : α → Action Batch} {asset : Asset}
    (market : α → Market) (hasset : operation.asset? = some asset) (hsteady : Steady snapshot state)
    (hreads : Reads snapshot (deployment.records owner operation) state)
    (hfinds : ∀ value, valueOn snapshot state = some value →
      deployment.Finds snapshot.accounts now (market value))
    (hf : ∀ value, Reads snapshot ((market value).readMint? asset).toList (f value)) :
    deployment.Consults operation owner now snapshot (state >>= f) := by
  -- which mint is read depends on what the records say, if they say anything
  cases hstate : valueOn snapshot state with
  | none =>
    have hnothing (value : α) (hvalue : valueOn snapshot state = some value) :
        Reads snapshot [] (f value) := by
      rw [hstate] at hvalue
      cases hvalue
    exact ⟨none, nofun, .bind hsteady hreads hnothing⟩
  | some found =>
    refine ⟨(market found).readMint? asset, fun mint hmint => ?_,
      .bind hsteady hreads fun value hvalue => ?_⟩
    · have hmarket := hfinds found hstate
      obtain ⟨hscales, hmint⟩ := (market found).readMint?_eq_some_iff.mp hmint
      rw [hmarket.deployment] at hscales
      exact ⟨hscales, asset, market found, hasset, hmarket, hmint⟩
    · cases hstate.symm.trans hvalue
      exact hf found

/-- What follows the state of the program reads the mint at most that it names. -/
theorem Consults.market {f : Market → Action Batch} {asset : Asset}
    (hasset : operation.asset? = some asset)
    (hrecords : deployment.records owner operation =
      [(Address.mainState deployment.program).1, (Address.globalStats deployment.program).1])
    (hf : ∀ market : Market, Reads snapshot (market.readMint? asset).toList (f market)) :
    deployment.Consults operation owner now snapshot (deployment.market now >>= f) := by
  refine .bind id hasset (deployment.steady_market now) ?_ (fun market hmarket => ?_) hf
  · rw [hrecords]
    exact reads_market
  · exact valueOn_market_iff.mp hmarket

/-- What follows the state of the program and a loan reads the mint at most that the state names. -/
theorem Consults.marketAndLoan {f : Market × UserLoan → Action Batch} {asset : Asset}
    (hasset : operation.asset? = some asset)
    (hrecords : deployment.records owner operation =
      [(Address.mainState deployment.program).1, (Address.globalStats deployment.program).1,
        (Address.userLoan deployment.program owner).1])
    (hf : ∀ state : Market × UserLoan,
      Reads snapshot (state.1.readMint? asset).toList (f state)) :
    deployment.Consults operation owner now snapshot
      (deployment.marketAndLoan owner now >>= f) := by
  refine .bind Prod.fst hasset (deployment.steady_marketAndLoan owner now) ?_
    (fun state hstate => ?_) hf
  · rw [hrecords]
    exact reads_marketAndLoan
  · exact (valueOn_marketAndLoan_iff.mp hstate).1

/-- Checking the input reads nothing. -/
theorem Consults.checked {action : Action Batch}
    (h : deployment.Consults operation owner now snapshot action) :
    deployment.Consults operation owner now snapshot
      (liftM (Plan.ofInput operation.validate) >>= fun _ => action) := by
  obtain ⟨mint?, hmint, hreads⟩ := h
  exact ⟨mint?, hmint, .plan_bind fun _ _ => hreads⟩

private theorem reads_setUp (admin feeReceiver quoteMint : Key)
    (buyFee sellFee leverageFee : String) :
    Reads snapshot [(Address.mainState deployment.program).1]
      (deployment.setUp admin feeReceiver quoteMint buyFee sellFee leverageFee) := by
  refine .plan_bind fun sellFee _ => ?_
  refine .plan_bind fun buyFee _ => ?_
  refine .plan_bind fun leverageFee _ => ?_
  have hread : Reads snapshot _ _ :=
    Read.reads_perform (.optional MainState (Address.mainState deployment.program).1)
  rw [Read.address_optional] at hread
  refine .bind_nil (Read.steady_perform _) hread fun present => ?_
  cases present with
  | none => exact .pure _
  | some => exact .throw _

private theorem reads_update (admin : Key) (change : ConfigChange) :
    Reads snapshot [(Address.mainState deployment.program).1]
      (deployment.update admin change) := by
  refine .plan_bind fun args _ => ?_
  have hread : Reads snapshot _ _ := Read.reads_perform (.mainState deployment.program)
  rw [Read.address_mainState] at hread
  refine .bind_nil (Read.steady_perform _) hread fun config => ?_
  dsimp only
  split
  · exact .throw _
  · split
    · exact .throw _
    · exact .pure _

private theorem consults_start {amount name symbol uri : String} :
    deployment.Consults (.start amount name symbol uri) owner now snapshot
      (deployment.start owner now amount name symbol uri) := by
  refine .market rfl rfl fun market => ?_
  dsimp only
  split
  · exact .throw _
  · exact market.reads_units_bind _ _ fun units => .freshKey_bind _

private theorem consults_buyWithReferral {amount : String} {referral : Key} :
    deployment.Consults (.buy amount (some referral)) owner now snapshot
      (deployment.buyWithReferral owner now amount referral) := by
  unfold buyWithReferral
  dsimp only
  split
  · exact .of_reads (.throw _)
  · exact .market rfl rfl fun market => market.reads_units_plan _ _

/-- Building reads the records that the operation depends on, and then the mint that its amount is
measured by. -/
theorem consults_build :
    deployment.Consults operation owner now snapshot (deployment.build operation owner now) := by
  cases operation with
  | setUp => exact .checked (.of_reads (reads_setUp ..))
  | update => exact .checked (.of_reads (reads_update ..))
  | start => exact .checked consults_start
  | buy amount referral =>
    cases referral with
    | none => exact .checked (.market rfl rfl fun market => market.reads_units_plan _ _)
    | some => exact .checked consults_buyWithReferral
  | sell | borrow | leverage =>
    exact .checked (.market rfl rfl fun market => market.reads_units_plan _ _)
  | borrowMore | repay | removeCollateral | closePosition =>
    exact .checked (.marketAndLoan rfl rfl fun state => state.1.reads_units_plan _ _)
  | flashClosePosition | extendLoan =>
    refine .checked (.of_reads ?_)
    refine .bind_nil (deployment.steady_marketAndLoan owner now) reads_marketAndLoan fun state => ?_
    exact .plan_bind fun usage _ => .pure _
  | liquidate =>
    refine .checked (.of_reads ?_)
    refine .bind_nil (deployment.steady_market now) reads_market fun market => ?_
    exact .plan_bind fun usage _ => .pure _
  | stake | unstake =>
    refine .checked (.market rfl rfl fun market => ?_)
    exact .plan_bind fun staking _ => market.reads_units_plan _ _

/-- Whatever a ledger answers, it notes only reads of the records that the operation depends on, and
of the mint that its amount is measured by. -/
theorem onlyRead_build (deployment : Deployment) (operation : Operation) (owner : Key) (now : Int64)
    (ledger : ScriptedLedger) :
    ∃ mint? : Option Key,
      (∀ mint ∈ mint?, deployment.MeasuredBy operation now ledger.accounts mint) ∧
      ledger.OnlyRead (ledger.run (deployment.build operation owner now)).2
        (deployment.records owner operation ++ mint?.toList) := by
  obtain ⟨mint?, hmint, hreads⟩ : deployment.Consults operation owner now ledger.snapshot
      (deployment.build operation owner now) := consults_build
  exact ⟨mint?, hmint, hreads.noted ledger rfl⟩

end Deployment

end LendingClient
