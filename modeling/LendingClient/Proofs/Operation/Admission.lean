import LendingClient.Proofs.Operation.Breaking

/-!
# The states in which building succeeds

Every operation is meant for certain states of the ledger: the program is set up or not, trading is
open or not, there is a loan or not, and the days that are named lie in the calendar. Building
succeeds in exactly these states, whatever else the accounts hold.
-/

namespace LendingClient

open LendingClient.Action

variable {snapshot : Snapshot}

namespace Market

/-- A text is an amount of an asset at its scale. -/
def Parses (market : Market) (accounts : Accounts) (asset : Asset) (input : String) : Prop :=
  ∃ raw places, market.ScaleIs accounts asset places ∧ Amount.parse input places = .ok raw

/-- Base tokens can be staked: there is a base token, a token that stands for stakes, and a program
that keeps them. -/
structure Stakes (market : Market) : Prop where
  mint : market.global.baseToken ≠ Key.unset
  token : market.config.stakeToken ≠ Key.unset
  program : market.config.stakeVaultProgram ≠ Key.unset

variable {market : Market} {accounts : Accounts}

private theorem exists_valueOn_units_iff {asset : Asset} {input : String} :
    (∃ raw, valueOn snapshot (market.units asset input) = some raw) ↔
      market.Parses snapshot.accounts asset input := by
  simp only [valueOn_units_iff, Parses]

/-- Staking is possible with a token and a program if these are configured, and set. -/
private theorem staking_eq_ok_iff {token program : Key} :
    market.staking = .ok (token, program) ↔
      (market.config.stakeToken = token ∧ token ≠ Key.unset) ∧
        market.config.stakeVaultProgram = program ∧ program ≠ Key.unset := by
  have hstaking : market.staking = .ok (token, program) ↔
      market.config.staking? = some (token, program) := by
    unfold staking
    cases market.config.staking? <;> simp
  rw [hstaking, ← Key.set?_eq_some_iff, ← Key.set?_eq_some_iff]
  simp [MainState.staking?, Option.bind_eq_some_iff]

/-- Base tokens can be staked exactly if what has to be set for it is found. -/
theorem stakes_iff : market.Stakes ↔
    (∃ token program, market.staking = .ok (token, program)) ∧
      ∃ mint, market.baseMint = .ok mint := by
  constructor
  · rintro ⟨hmint, htoken, hprogram⟩
    exact ⟨⟨_, _, staking_eq_ok_iff.mpr ⟨⟨rfl, htoken⟩, rfl, hprogram⟩⟩, _,
      baseMint_eq_ok_iff.mpr ⟨rfl, hmint⟩⟩
  · rintro ⟨⟨token, program, hstaking⟩, mint, hmint⟩
    obtain ⟨⟨rfl, htoken⟩, rfl, hprogram⟩ := staking_eq_ok_iff.mp hstaking
    obtain ⟨rfl, hset⟩ := baseMint_eq_ok_iff.mp hmint
    exact ⟨hset, htoken, hprogram⟩

/-- What a stake needs, in the order in which it is worked out. -/
theorem staked_iff {input : String} :
    ((∃ token program, market.staking = .ok (token, program)) ∧
      market.Parses accounts .base input ∧ ∃ mint, market.baseMint = .ok mint) ↔
    market.Stakes ∧ market.Parses accounts .base input := by
  rw [stakes_iff, and_assoc]
  exact and_congr_right fun _ => and_comm

end Market

namespace Deployment

/-- The accounts hold what an operation of a user is meant for. -/
def Suits (deployment : Deployment) (accounts : Accounts) (owner : Key) (now : Int64) :
    Operation → Prop
  | .setUp .. => accounts.get? (Address.mainState deployment.program).1 = none
  | .update change => ∃ config : MainState,
      accounts.Holds (Address.mainState deployment.program).1 config ∧ config.admin = owner ∧
        change.stakeToken.getD config.stakeToken ≠ Key.unset
  | .start amount _ _ _ => ∃ market, deployment.Finds accounts now market ∧
      market.global.baseToken = Key.unset ∧ market.Parses accounts .quote amount
  | .buy amount _ => ∃ market, deployment.Finds accounts now market ∧
      market.Parses accounts .quote amount ∧ market.Trades
  | .sell amount => ∃ market, deployment.Finds accounts now market ∧
      market.Parses accounts .base amount ∧ market.Trades
  | .liquidate => ∃ market, deployment.Finds accounts now market ∧ market.Trades
  | .borrow amount days | .leverage amount days => ∃ market, deployment.Finds accounts now market ∧
      market.Parses accounts .quote amount ∧ market.Trades ∧
        -- The day of borrowing is day zero, so a loan matures one day after its term.
        Calendar.Covers (now.toInt + (days.toNat + 1) * Calendar.secondsPerDay)
  | .borrowMore amount | .repay amount | .closePosition amount => ∃ market loan,
      (deployment.Finds accounts now market ∧ deployment.FindsLoan accounts owner loan) ∧
        market.Parses accounts .quote amount ∧ market.Trades ∧ Calendar.Covers loan.endDate.toInt
  | .removeCollateral amount => ∃ market loan,
      (deployment.Finds accounts now market ∧ deployment.FindsLoan accounts owner loan) ∧
        market.Parses accounts .base amount ∧ market.Trades ∧ Calendar.Covers loan.endDate.toInt
  | .flashClosePosition => ∃ market loan,
      (deployment.Finds accounts now market ∧ deployment.FindsLoan accounts owner loan) ∧
        market.Trades ∧ Calendar.Covers loan.endDate.toInt
  | .extendLoan days => ∃ market loan,
      (deployment.Finds accounts now market ∧ deployment.FindsLoan accounts owner loan) ∧
        market.Trades ∧ market.Extends loan days
  | .stake amount | .unstake amount => ∃ market, deployment.Finds accounts now market ∧
      market.Stakes ∧ market.Parses accounts .base amount

/-- An operation's input is good, nobody is said to have sent themselves, and the accounts hold what
the operation is meant for. -/
structure Admits (deployment : Deployment) (accounts : Accounts) (operation : Operation)
    (owner : Key) (now : Int64) : Prop where
  valid : operation.validate = .ok ()
  others : ∀ amount, operation ≠ .buy amount (some owner)
  suits : deployment.Suits accounts owner now operation

variable {deployment : Deployment} {owner : Key} {now : Int64}

/-- Setting up comes to a batch while there is no configuration. -/
private theorem comes_setUp_iff {receiver mint : Key} {buyFee sellFee leverageFee : String}
    (hvalid : (Operation.setUp receiver mint buyFee sellFee leverageFee).validate = .ok ()) :
    Comes snapshot (deployment.setUp owner receiver mint buyFee sellFee leverageFee) ↔
      snapshot.accounts.get? (Address.mainState deployment.program).1 = none := by
  obtain ⟨buyRate, hbuy, hrest⟩ := bind_eq_ok_iff.mp hvalid
  obtain ⟨sellRate, hsell, hrest⟩ := bind_eq_ok_iff.mp hrest
  obtain ⟨leverageRate, hleverage, -⟩ := bind_eq_ok_iff.mp hrest
  unfold Comes
  simp only [valueOn_setUp_iff]
  constructor
  · rintro ⟨batch, _, -, _, -, _, -, habsent, -⟩
    exact habsent
  · intro habsent
    exact ⟨_, sellRate, hsell, buyRate, hbuy, leverageRate, hleverage, habsent, rfl⟩

/-- The arguments of a change name the stake token that the change names. -/
theorem stakeToken_of_arguments {change : ConfigChange} {args : UpdateArguments}
    (h : change.arguments = .ok args) : args.stakeToken = change.stakeToken := by
  obtain ⟨_, -, _, -, _, -, rfl⟩ := ConfigChange.arguments_eq_ok_iff.mp h
  rfl

/-- A change to the configuration comes to a batch for the admin, if a token for stakes is set
afterwards. -/
private theorem comes_update_iff {change : ConfigChange} (hvalid : change.validate = .ok ()) :
    Comes snapshot (deployment.update owner change) ↔ ∃ config : MainState,
      snapshot.accounts.Holds (Address.mainState deployment.program).1 config ∧
        config.admin = owner ∧ change.stakeToken.getD config.stakeToken ≠ Key.unset := by
  obtain ⟨-, args, hargs⟩ := ConfigChange.validate_eq_ok_iff.mp hvalid
  unfold Comes
  simp only [valueOn_update_iff]
  constructor
  · rintro ⟨batch, found, hfound, config, hconfig, hadmin, htoken, -⟩
    rw [stakeToken_of_arguments hfound] at htoken
    exact ⟨config, hconfig, hadmin, htoken⟩
  · rintro ⟨config, hconfig, hadmin, htoken⟩
    rw [← stakeToken_of_arguments hargs] at htoken
    exact ⟨_, args, hargs, config, hconfig, hadmin, htoken, rfl⟩

/-- Opening trading comes to a batch before there is a base token. -/
private theorem comes_start_iff {amount name symbol uri : String} :
    Comes snapshot (deployment.start owner now amount name symbol uri) ↔
      ∃ market, deployment.Finds snapshot.accounts now market ∧
        market.global.baseToken = Key.unset ∧ market.Parses snapshot.accounts .quote amount := by
  simp only [Comes, valueOn_start_iff, ← Market.exists_valueOn_units_iff]
  constructor
  · rintro ⟨batch, market, hfinds, hunset, raw, hraw, -⟩
    exact ⟨market, hfinds, hunset, raw, hraw⟩
  · rintro ⟨market, hfinds, hunset, raw, hraw⟩
    exact ⟨_, market, hfinds, hunset, raw, hraw, rfl⟩

/-- Buying comes to a batch while trading is open. -/
private theorem comes_buy_iff {amount : String} :
    Comes snapshot (deployment.buy owner now amount) ↔
      ∃ market, deployment.Finds snapshot.accounts now market ∧
        market.Parses snapshot.accounts .quote amount ∧ market.Trades := by
  simp only [buy, comes_bind_iff, valueOn_market_iff, valueOn_plan, comes_pure, and_true,
    exists_and_right, Market.exists_valueOn_units_iff, Market.exists_commonUsage_iff]

/-- So does buying with a referral, unless it is one of the owner. -/
private theorem comes_buyWithReferral_iff {amount : String} {referral : Key} :
    Comes snapshot (deployment.buyWithReferral owner now amount referral) ↔ referral ≠ owner ∧
      ∃ market, deployment.Finds snapshot.accounts now market ∧
        market.Parses snapshot.accounts .quote amount ∧ market.Trades := by
  simp only [buyWithReferral, comes_guard_iff, comes_bind_iff, valueOn_market_iff, valueOn_plan,
    comes_pure, and_true, exists_and_right, Market.exists_valueOn_units_iff,
    Market.exists_commonUsage_iff, ne_eq]

/-- So does selling. -/
private theorem comes_sell_iff {amount : String} :
    Comes snapshot (deployment.sell owner now amount) ↔
      ∃ market, deployment.Finds snapshot.accounts now market ∧
        market.Parses snapshot.accounts .base amount ∧ market.Trades := by
  simp only [sell, comes_bind_iff, valueOn_market_iff, valueOn_plan, comes_pure, and_true,
    exists_and_right, Market.exists_valueOn_units_iff, Market.exists_commonUsage_iff]

/-- So does liquidating. -/
private theorem comes_liquidate_iff :
    Comes snapshot (deployment.liquidate owner now) ↔
      ∃ market, deployment.Finds snapshot.accounts now market ∧ market.Trades := by
  simp only [liquidate, comes_bind_iff, valueOn_market_iff, valueOn_plan, comes_pure, and_true,
    Market.exists_commonUsage_iff]

/-- A new loan comes to a batch while trading is open, if the calendar covers the day on which it
matures. -/
private theorem comes_openLoan_iff {kind : InstructionKind} {amount : String} {days : UInt64} :
    Comes snapshot (deployment.openLoan kind owner now amount days) ↔
      ∃ market, deployment.Finds snapshot.accounts now market ∧
        market.Parses snapshot.accounts .quote amount ∧ market.Trades ∧
        Calendar.Covers (now.toInt + (days.toNat + 1) * Calendar.secondsPerDay) := by
  simp only [openLoan, comes_bind_iff, valueOn_market_iff, valueOn_plan, comes_pure, and_true,
    exists_and_right, Market.exists_valueOn_units_iff, Market.exists_openLoanUsage_iff]
  refine exists_congr fun market => and_congr_right fun hfinds => ?_
  rw [hfinds.now]

/-- A change to a loan comes to a batch while trading is open, if the calendar covers the end of the
loan. -/
private theorem comes_adjustLoan_iff {kind : InstructionKind} {asset : Asset} {amount : String} :
    Comes snapshot (deployment.adjustLoan kind owner now asset amount) ↔
      ∃ market loan, (deployment.Finds snapshot.accounts now market ∧
        deployment.FindsLoan snapshot.accounts owner loan) ∧
        market.Parses snapshot.accounts asset amount ∧ market.Trades ∧
        Calendar.Covers loan.endDate.toInt := by
  simp only [adjustLoan, comes_bind_iff, valueOn_marketAndLoan_iff, valueOn_plan, comes_pure,
    and_true, Prod.exists, exists_and_right, Market.exists_valueOn_units_iff,
    Market.exists_adjustLoanUsage_iff]

/-- So does paying a loan back from its own collateral. -/
private theorem comes_flashClose_iff :
    Comes snapshot (deployment.flashClose owner now) ↔
      ∃ market loan, (deployment.Finds snapshot.accounts now market ∧
        deployment.FindsLoan snapshot.accounts owner loan) ∧
        market.Trades ∧ Calendar.Covers loan.endDate.toInt := by
  simp only [flashClose, comes_bind_iff, valueOn_marketAndLoan_iff, valueOn_plan, comes_pure,
    and_true, Prod.exists, Market.exists_adjustLoanUsage_iff]

/-- Extending a loan comes to a batch while trading is open, if the loan can be extended by so
much. -/
private theorem comes_extendLoan_iff {days : UInt64} (hdays : days.toNat ≤ longestTerm) :
    Comes snapshot (deployment.extendLoan owner now days) ↔
      ∃ market loan, (deployment.Finds snapshot.accounts now market ∧
        deployment.FindsLoan snapshot.accounts owner loan) ∧
        market.Trades ∧ market.Extends loan days := by
  simp only [extendLoan, comes_bind_iff, valueOn_marketAndLoan_iff, valueOn_plan, comes_pure,
    and_true, Prod.exists, Market.exists_extendLoanUsage_iff hdays]

/-- Staking comes to a batch once everything that it needs is set. -/
private theorem comes_stake_iff {amount : String} :
    Comes snapshot (deployment.stake owner now amount) ↔
      ∃ market, deployment.Finds snapshot.accounts now market ∧ market.Stakes ∧
        market.Parses snapshot.accounts .base amount := by
  simp only [stake, comes_bind_iff, valueOn_market_iff, valueOn_ofInput_iff, comes_pure, and_true,
    Prod.exists, exists_and_right, Market.exists_valueOn_units_iff, Market.staked_iff]

/-- So does taking a stake back. -/
private theorem comes_unstake_iff {amount : String} :
    Comes snapshot (deployment.unstake owner now amount) ↔
      ∃ market, deployment.Finds snapshot.accounts now market ∧ market.Stakes ∧
        market.Parses snapshot.accounts .base amount := by
  simp only [unstake, comes_bind_iff, valueOn_market_iff, valueOn_ofInput_iff, comes_pure, and_true,
    Prod.exists, exists_and_right, Market.exists_valueOn_units_iff, Market.staked_iff]

/-- An operation with good input is built exactly if the accounts hold what it is meant for, unless
a buyer names themselves. -/
theorem comes_build_of_valid_iff {operation : Operation} (hvalid : operation.validate = .ok ())
    (hothers : ∀ amount, operation ≠ .buy amount (some owner)) :
    Comes snapshot (deployment.build operation owner now) ↔
      deployment.Suits snapshot.accounts owner now operation := by
  have hchecked {rest : Action Batch} :
      Comes snapshot (liftM (Plan.ofInput operation.validate) >>= fun _ => rest) ↔
        Comes snapshot rest := by
    simp only [comes_bind_iff, valueOn_ofInput_iff, hvalid, exists_and_right]
    exact and_iff_right ⟨(), trivial⟩
  cases operation with
  | setUp receiver mint buyFee sellFee leverageFee => exact hchecked.trans (comes_setUp_iff hvalid)
  | update change => exact hchecked.trans (comes_update_iff hvalid)
  | start amount name symbol uri => exact hchecked.trans comes_start_iff
  | buy amount referral =>
    cases referral with
    | none => exact hchecked.trans comes_buy_iff
    | some referral =>
      have hother : referral ≠ owner := by
        rintro rfl
        exact hothers amount rfl
      exact hchecked.trans (comes_buyWithReferral_iff.trans (and_iff_right hother))
  | sell amount => exact hchecked.trans comes_sell_iff
  | borrow amount days | leverage amount days => exact hchecked.trans comes_openLoan_iff
  | borrowMore amount | repay amount | removeCollateral amount | closePosition amount =>
    exact hchecked.trans comes_adjustLoan_iff
  | flashClosePosition => exact hchecked.trans comes_flashClose_iff
  | extendLoan days =>
    have hterm := Operation.toNat_le_of_checkTerm hvalid
    exact hchecked.trans (comes_extendLoan_iff hterm)
  | liquidate => exact hchecked.trans comes_liquidate_iff
  | stake amount => exact hchecked.trans comes_stake_iff
  | unstake amount => exact hchecked.trans comes_unstake_iff

/-- Building comes to a batch on exactly the accounts that admit the operation. -/
theorem comes_build_iff {operation : Operation} :
    Comes snapshot (deployment.build operation owner now) ↔
      deployment.Admits snapshot.accounts operation owner now := by
  constructor
  · intro hcomes
    obtain ⟨_, hvalid, hrest⟩ := comes_bind_iff.mp hcomes
    rw [valueOn_ofInput_iff] at hvalid
    -- The check lets a buyer who names themselves through; the builder refuses them.
    have hothers : ∀ amount, operation ≠ .buy amount (some owner) := by
      rintro amount rfl
      exact (comes_buyWithReferral_iff.mp hrest).1 rfl
    exact ⟨hvalid, hothers, (comes_build_of_valid_iff hvalid hothers).mp hcomes⟩
  · rintro ⟨hvalid, hothers, hsuits⟩
    exact (comes_build_of_valid_iff hvalid hothers).mpr hsuits

/-- On a ledger that never fails to read an account, building comes to a batch exactly if the
operation's input is good, nobody is said to have sent themselves, and the accounts hold what the
operation is meant for. -/
theorem build_succeeds_iff (deployment : Deployment) (operation : Operation) (owner : Key)
    (now : Int64) (ledger : ScriptedLedger) (hanswers : ledger.Answers) :
    (∃ batch, (ledger.run (deployment.build operation owner now)).1 = .ok (.ok batch)) ↔
      deployment.Admits ledger.accounts operation owner now := by
  have hadmits : Comes ledger.snapshot (deployment.build operation owner now) ↔
      deployment.Admits ledger.accounts operation owner now := comes_build_iff
  rw [← hadmits]
  constructor
  · rintro ⟨batch, hrun⟩
    exact ⟨batch, deployment.valueOn_build_of_play hrun⟩
  · rintro ⟨batch, hvalue⟩
    exact ⟨batch, deployment.play_build_of_valueOn hanswers hvalue⟩

/-- A user with an open loan may pay some of it back. -/
theorem build_succeeds_openLedger :
    (openLedger 1701000000).Answers ∧
      sample.Admits (openLedger 1701000000).accounts (.repay "1.5") (Octets.filled 32 7)
        1700000000 := by
  have hanswers := answers_openLedger 1701000000
  have hiff := sample.build_succeeds_iff (.repay "1.5") (Octets.filled 32 7) 1700000000
    (openLedger 1701000000) hanswers
  exact ⟨hanswers, hiff.mp exists_batch_repay⟩

end Deployment

end LendingClient
