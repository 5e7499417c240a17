import LendingClient.Proofs.Layout
import LendingClient.Proofs.Operation.Breaking

/-!
# What a batch carries

The program gets to see nothing of an operation but the data of one instruction: a discriminator
that says which operation it is, and a body in the layout of its arguments. From the body the input
of the operation can be read back, with nothing left over. Amounts are exact in the units of their
asset, and every fee is in its own place.
-/

namespace LendingClient

open LendingClient.Action

/-- A rate in hundredths of a percent is exactly the percentage that a text says. -/
def Fee.Stands (text : String) (rate : UInt64) : Prop :=
  ∃ numeral : Numeral, numeral.Spelled text ∧ (rate.toNat : ℚ) = 100 * numeral.value

/-- A fee that can be read stands for its rate. -/
private theorem Fee.stands_of_parse {field : FeeField} {text : String} {rate : UInt64}
    (h : Fee.parse field text = .ok rate) : Fee.Stands text rate := by
  obtain ⟨numeral, hspelled, -, -, hrate⟩ := Fee.parse_eq_ok_iff.mp h
  exact ⟨numeral, hspelled, hrate⟩

/-- A fee that may be left out stands for a rate exactly if it is there. -/
theorem ConfigChange.rel_stands_of_fee {field : FeeField} {fee : Option String}
    {rate : Option UInt64} (h : ConfigChange.fee? field fee = .ok rate) :
    Option.Rel Fee.Stands fee rate := by
  cases fee with
  | none =>
    cases h
    exact .none
  | some text =>
    obtain ⟨rate, hrate, rfl⟩ := map_eq_ok_iff.mp h
    exact .some (Fee.stands_of_parse hrate)

/-- A number of units is exactly the amount of an asset that a text says, at the decimal places that
are configured, or else at those of the asset's mint. -/
def Deployment.Counts (deployment : Deployment) (accounts : Accounts) (now : Int64) (asset : Asset)
    (text : String) (units : UInt64) : Prop :=
  ∃ market places, deployment.Finds accounts now market ∧ market.ScaleIs accounts asset places ∧
    ∃ numeral : Numeral, numeral.Spelled text ∧
      (units.toNat : ℚ) = numeral.value * 10 ^ places.toNat

/-- From the body of an instruction the input of an operation is read back, and nothing is left. -/
def Operation.ReadFrom (deployment : Deployment) (accounts : Accounts) (now : Int64)
    (body : Bytes) : Operation → Prop
  | .setUp receiver _ buyFee sellFee leverageFee => ∃ args,
    Layout.setUp.read body = .ok (args, []) ∧ args.feeReceiver = receiver ∧
      Fee.Stands buyFee args.buyFee ∧ Fee.Stands sellFee args.sellFee ∧
      Fee.Stands leverageFee args.leverageFee
  | .update change => ∃ args,
    Layout.update.read body = .ok (args, []) ∧ Option.Rel Fee.Stands change.buyFee args.buyFee ∧
      Option.Rel Fee.Stands change.sellFee args.sellFee ∧
      Option.Rel Fee.Stands change.leverageFee args.leverageFee ∧
      args.admin = change.admin ∧ args.feeReceiver = change.feeReceiver ∧
      args.quoteToken = change.quoteToken ∧ args.stakeToken = change.stakeToken ∧
      args.stakeVaultProgram = change.stakeVaultProgram ∧
      args.stakeEnabled = change.stakeEnabled ∧ args.started = change.started
  | .start amount name symbol uri => ∃ units,
    Layout.start.read body = .ok (⟨units, name, symbol, uri⟩, []) ∧
      deployment.Counts accounts now .quote amount units
  | .buy amount (some referral) => ∃ units,
    Layout.referralAmount.read body = .ok ((referral, units), []) ∧
      deployment.Counts accounts now .quote amount units
  | .borrow amount days | .leverage amount days => ∃ units,
    Layout.daysAmount.read body = .ok ((days, units), []) ∧
      deployment.Counts accounts now .quote amount units
  | .buy amount none | .borrowMore amount | .repay amount | .closePosition amount => ∃ units,
    Layout.amount.read body = .ok (units, []) ∧
      deployment.Counts accounts now .quote amount units
  | .sell amount | .removeCollateral amount | .stake amount | .unstake amount => ∃ units,
    Layout.amount.read body = .ok (units, []) ∧ deployment.Counts accounts now .base amount units
  | .extendLoan days => Layout.u64.read body = .ok (days, [])
  | .flashClosePosition | .liquidate => body = []

/-- A batch carries an operation: it asks for the computing of the operation's instruction first,
and calls the program last, with the instruction's discriminator and the input behind it. -/
structure Batch.Carries (batch : Batch) (deployment : Deployment) (accounts : Accounts)
    (operation : Operation) (now : Int64) : Prop where
  kind : batch.kind = operation.kind
  limit : batch.instructions.head? = some (.computeUnitLimit operation.kind.computeUnits)
  request : ∃ call, batch.instructions.getLast? = some call ∧ call.program = deployment.program ∧
    call.data.take 8 = discriminator instructionSpace operation.kind.name ∧
    operation.ReadFrom deployment accounts now (call.data.drop 8)

namespace Deployment

variable {deployment : Deployment} {snapshot : Snapshot} {operation : Operation} {owner : Key}
  {now : Int64} {batch : Batch}

/-- The units that are worked out for a text count its amount. -/
private theorem counts_of_valueOn {market : Market} {asset : Asset} {text : String} {units : UInt64}
    (hfinds : deployment.Finds snapshot.accounts now market)
    (hunits : valueOn snapshot (market.units asset text) = some units) :
    deployment.Counts snapshot.accounts now asset text units := by
  obtain ⟨places, hscale, hparse⟩ := Market.valueOn_units_iff.mp hunits
  obtain ⟨numeral, hspelled, -, -, hvalue, -⟩ := Amount.parse_eq_ok_iff.mp hparse
  exact ⟨market, places, hfinds, hscale, numeral, hspelled, hvalue⟩

/-- A batch that ends with the program's instruction carries what can be read from its body. -/
theorem carries_of_last {α : Type} {layout : Layout α} {args : α} {accounts : Accounts}
    {uses : List AccountUse} (hkind : batch.kind = operation.kind)
    (hlimit : batch.instructions.head? = some (.computeUnitLimit operation.kind.computeUnits))
    (hlast : batch.instructions.getLast? =
      some ⟨deployment.program, uses, operation.kind.encode layout args⟩)
    (hread : operation.ReadFrom deployment accounts now (layout.write args)) :
    batch.Carries deployment accounts operation now := by
  have htag : operation.kind.tag.length = 8 := length_discriminator _ _
  have htake : (operation.kind.encode layout args).take 8 = operation.kind.tag := by
    rw [InstructionKind.encode, ← htag, List.take_left]
  have hdrop : (operation.kind.encode layout args).drop 8 = layout.write args := by
    rw [InstructionKind.encode, ← htag, List.drop_left]
  refine ⟨hkind, hlimit, _, hlast, rfl, htake, ?_⟩
  rwa [hdrop]

/-- The batch that an operation comes to carries it. -/
theorem carries_of_valueOn
    (h : valueOn snapshot (deployment.build operation owner now) = some batch) :
    batch.Carries deployment snapshot.accounts operation now := by
  obtain ⟨_, hvalid, hbatch⟩ := valueOn_bind_iff.mp h
  rw [valueOn_ofInput_iff] at hvalid
  cases operation with
  | setUp receiver mint buyFee sellFee leverageFee =>
    obtain ⟨sellRate, hsell, buyRate, hbuy, leverageRate, hleverage, -, rfl⟩ :=
      valueOn_setUp_iff.mp hbatch
    refine carries_of_last rfl rfl rfl ⟨_, (Layout.readsBack_setUp _).read_write, rfl, ?_⟩
    exact ⟨Fee.stands_of_parse hbuy, Fee.stands_of_parse hsell, Fee.stands_of_parse hleverage⟩
  | update change =>
    obtain ⟨args, hargs, -, -, -, -, rfl⟩ := valueOn_update_iff.mp hbatch
    obtain ⟨sellRate, hsell, buyRate, hbuy, leverageRate, hleverage, rfl⟩ :=
      ConfigChange.arguments_eq_ok_iff.mp hargs
    refine carries_of_last rfl rfl rfl ⟨_, (Layout.readsBack_update _).read_write, ?_⟩
    exact ⟨ConfigChange.rel_stands_of_fee hbuy, ConfigChange.rel_stands_of_fee hsell,
      ConfigChange.rel_stands_of_fee hleverage, rfl, rfl, rfl, rfl, rfl, rfl, rfl⟩
  | start amount name symbol uri =>
    obtain ⟨market, hfinds, -, units, hunits, rfl⟩ := valueOn_start_iff.mp hbatch
    -- Four bytes hold the length of a text, so it is read back only because it was checked.
    have hshort {text : String} (hmem : text ∈ [name, symbol, uri]) :
        (Text.utf8 text).length < UInt32.size := Operation.length_texts_lt hvalid hmem
    have hreads : Layout.start.ReadsBack ⟨units, name, symbol, uri⟩ :=
      Layout.readsBack_start (hshort (by simp)) (hshort (by simp)) (hshort (by simp))
    exact carries_of_last rfl rfl rfl
      ⟨units, hreads.read_write, counts_of_valueOn hfinds hunits⟩
  | buy amount referral =>
    cases referral with
    | none =>
      obtain ⟨market, hfinds, units, hunits, usage, -, rfl⟩ := valueOn_buy_iff.mp hbatch
      exact carries_of_last rfl rfl rfl
        ⟨units, (Layout.readsBack_amount units).read_write, counts_of_valueOn hfinds hunits⟩
    | some referral =>
      obtain ⟨-, market, hfinds, units, hunits, usage, -, rfl⟩ :=
        valueOn_buyWithReferral_iff.mp hbatch
      exact carries_of_last rfl rfl rfl
        ⟨units, (Layout.readsBack_referralAmount referral units).read_write,
          counts_of_valueOn hfinds hunits⟩
  | sell amount =>
    obtain ⟨market, hfinds, units, hunits, usage, -, rfl⟩ := valueOn_sell_iff.mp hbatch
    exact carries_of_last rfl rfl rfl
      ⟨units, (Layout.readsBack_amount units).read_write, counts_of_valueOn hfinds hunits⟩
  | borrow amount days | leverage amount days =>
    obtain ⟨market, hfinds, units, hunits, usage, -, rfl⟩ := valueOn_openLoan_iff.mp hbatch
    exact carries_of_last rfl rfl rfl
      ⟨units, (Layout.readsBack_daysAmount days units).read_write, counts_of_valueOn hfinds hunits⟩
  | borrowMore amount | repay amount | removeCollateral amount | closePosition amount =>
    obtain ⟨market, loan, ⟨hfinds, -⟩, units, hunits, usage, -, rfl⟩ :=
      valueOn_adjustLoan_iff.mp hbatch
    exact carries_of_last rfl rfl rfl
      ⟨units, (Layout.readsBack_amount units).read_write, counts_of_valueOn hfinds hunits⟩
  | flashClosePosition =>
    obtain ⟨market, loan, -, usage, -, rfl⟩ := valueOn_flashClose_iff.mp hbatch
    exact carries_of_last rfl rfl rfl rfl
  | extendLoan days =>
    obtain ⟨market, loan, -, usage, -, rfl⟩ := valueOn_extendLoan_iff.mp hbatch
    exact carries_of_last rfl rfl rfl (Layout.readsBack_u64 days).read_write
  | liquidate =>
    obtain ⟨market, -, usage, -, rfl⟩ := valueOn_liquidate_iff.mp hbatch
    exact carries_of_last rfl rfl rfl rfl
  | stake amount =>
    obtain ⟨market, hfinds, token, program, -, units, hunits, mint, -, rfl⟩ :=
      valueOn_stake_iff.mp hbatch
    exact carries_of_last rfl rfl rfl
      ⟨units, (Layout.readsBack_amount units).read_write, counts_of_valueOn hfinds hunits⟩
  | unstake amount =>
    obtain ⟨market, hfinds, token, program, -, units, hunits, mint, -, rfl⟩ :=
      valueOn_unstake_iff.mp hbatch
    exact carries_of_last rfl rfl rfl
      ⟨units, (Layout.readsBack_amount units).read_write, counts_of_valueOn hfinds hunits⟩

/-- Whenever building comes to a batch, the batch carries the operation: its last instruction calls
the program, and the input of the operation is read back from the data of that instruction. -/
theorem build_carries (deployment : Deployment) (operation : Operation) (owner : Key) (now : Int64)
    (ledger : ScriptedLedger) (batch : Batch)
    (h : (ledger.run (deployment.build operation owner now)).1 = .ok (.ok batch)) :
    batch.Carries deployment ledger.accounts operation now :=
  carries_of_valueOn (deployment.valueOn_build_of_play h)

/-- A repayment on the sample ledger carries the amount that is paid back. -/
theorem build_carries_openLedger :
    ∃ batch, ((openLedger 1701000000).run (sample.build (.repay "1.5") (Octets.filled 32 7)
        1700000000)).1 = .ok (.ok batch) ∧
      batch.Carries sample (openLedger 1701000000).accounts (.repay "1.5") 1700000000 := by
  obtain ⟨batch, hbatch⟩ := exists_batch_repay
  exact ⟨batch, hbatch, build_carries sample (.repay "1.5") (Octets.filled 32 7) 1700000000
    (openLedger 1701000000) batch hbatch⟩

end Deployment

end LendingClient
