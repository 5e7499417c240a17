import LendingClient.Proofs.Operation.Breaking
import LendingClient.Proofs.Operation.Reading
import LendingClient.Proofs.Run.Sparing

/-!
# Configured decimal places

The decimal places of the tokens may be configured, so that no mint has to be read for them. If they
are those of the mints, that makes no difference to the batch that is built. It is not obvious for the
base token: before trading is opened there is no base mint to read, but decimal places may be
configured already. Every operation on base tokens needs the mint afterwards, so it fails in either
case. What the read of a mint adds is one more call that the ledger may fail to answer.
-/

namespace LendingClient

open LendingClient.Action ScriptedLedger

variable {snapshot : Snapshot}

/-- The same program with other decimal places configured, or with none. -/
def Deployment.withScales (deployment : Deployment) (scales : Option Scales) : Deployment :=
  { deployment with scales := scales }

/-- The decimal places are those of the mints that the records name. While no base token is named,
those of the base token may be any. -/
structure Deployment.ScaledBy (deployment : Deployment) (accounts : Accounts) (scales : Scales) :
    Prop where
  quote : ∀ config : MainState, accounts.Holds (Address.mainState deployment.program).1 config →
    accounts.HoldsMint config.quoteToken scales.quote
  base : ∀ global : GlobalStats, accounts.Holds (Address.globalStats deployment.program).1 global →
    global.baseToken ≠ Key.unset → accounts.HoldsMint global.baseToken scales.base

namespace Market

/-- The same state with decimal places configured. -/
def scaled (market : Market) (scales : Scales) : Market :=
  { market with deployment := market.deployment.withScales (some scales) }

variable {market : Market} {asset : Asset} {scales : Scales}

/-- The mint of an asset has the decimal places of the asset. -/
theorem holdsMint_of_scaledBy {deployment : Deployment} {accounts : Accounts} {now : Int64}
    {mint : Key} (hscales : deployment.ScaledBy accounts scales)
    (hmarket : deployment.Finds accounts now market) (hmint : market.mint asset = .ok mint) :
    accounts.HoldsMint mint (scales.of asset) := by
  cases asset with
  | base =>
    obtain ⟨rfl, hset⟩ := baseMint_eq_ok_iff.mp hmint
    exact hscales.base market.global hmarket.global hset
  | quote =>
    cases hmint
    exact hscales.quote market.config hmarket.config

/-- Units of an asset may be found without reading its mint, if what follows reads nothing and needs
the mint itself. -/
theorem spares_units {α : Type} {tail : UInt64 → Action α} (input : String)
    (hnone : market.deployment.scales = none)
    (hscale : ∀ mint, market.mint asset = .ok mint →
      snapshot.accounts.HoldsMint mint (scales.of asset))
    (hcertain : ∀ raw, Certain snapshot (tail raw))
    (hmint : ∀ raw, Comes snapshot (tail raw) → ∃ mint, market.mint asset = .ok mint) :
    Spares snapshot (market.units asset input >>= tail)
      ((market.scaled scales).units asset input >>= tail) := by
  have hread (places : UInt8) : valueOn snapshot (market.decimals asset) = some places ↔
      ∃ mint, market.mint asset = .ok mint ∧ snapshot.accounts.HoldsMint mint places := by
    rw [valueOn_decimals_iff, ScaleIs, hnone]
  have hgiven : (market.scaled scales).decimals asset = pure (scales.of asset) := rfl
  rw [units, units, bind_assoc, bind_assoc, hgiven, pure_bind]
  cases hasset : market.mint asset with
  | ok mint =>
    have hplaces := (hread _).mpr ⟨mint, hasset, hscale mint hasset⟩
    exact .of_value (market.steady_decimals asset) hplaces (.plan_bind fun raw _ => hcertain raw)
  | error fault =>
    -- configured decimal places lead past the missing mint, but not past where the mint is needed
    refine .of_none (market.steady_decimals asset) ?_ ?_
    · rw [Option.eq_none_iff_forall_ne_some]
      intro places hplaces
      obtain ⟨mint, hmint, -⟩ := (hread places).mp hplaces
      cases hasset.symm.trans hmint
    · rw [Option.eq_none_iff_forall_ne_some]
      intro value hvalue
      obtain ⟨raw, -, hraw⟩ := valueOn_bind_iff.mp hvalue
      obtain ⟨mint, hfound⟩ := hmint raw ⟨value, hraw⟩
      cases hasset.symm.trans hfound

/-- While trading is open, either asset has a mint. -/
theorem exists_mint_of_trades (h : market.Trades) : ∃ mint, market.mint asset = .ok mint := by
  cases asset with
  | base => exact ⟨market.global.baseToken, baseMint_eq_ok_iff.mpr ⟨rfl, h.mint⟩⟩
  | quote => exact ⟨market.config.quoteToken, rfl⟩

/-- Units of an asset may be found without reading its mint, if a batch is worked out from them in a
way that needs the mint itself. -/
theorem spares_units_plan {β : Type} {deployment : Deployment} {now : Int64} {plan : Plan β}
    {f : UInt64 → β → Batch} (input : String) (hnone : deployment.scales = none)
    (hscales : deployment.ScaledBy snapshot.accounts scales)
    (hmarket : deployment.Finds snapshot.accounts now market)
    (hmint : (∃ value, plan.value? = some value) → ∃ mint, market.mint asset = .ok mint) :
    Spares snapshot
      (market.units asset input >>= fun raw => liftM plan >>= fun value => pure (f raw value))
      ((market.scaled scales).units asset input >>= fun raw =>
        liftM plan >>= fun value => pure (f raw value)) := by
  rw [← hmarket.deployment] at hnone
  refine spares_units input hnone (fun mint => holdsMint_of_scaledBy hscales hmarket)
    (fun raw => .plan_bind fun value _ => .pure _) fun raw hcomes => ?_
  obtain ⟨value, hvalue, -⟩ := comes_bind_iff.mp hcomes
  rw [valueOn_plan] at hvalue
  exact hmint ⟨value, hvalue⟩

end Market

namespace Deployment

variable {deployment : Deployment} {operation : Operation} {owner : Key} {now : Int64}
  {scales : Scales}

/-- The state of the program is read alike whether or not decimal places are configured. -/
theorem spares_market {f g : Market → Action Batch}
    (h : ∀ market, (deployment.withScales none).Finds snapshot.accounts now market →
      Spares snapshot (f market) (g (market.scaled scales))) :
    Spares snapshot ((deployment.withScales none).market now >>= f)
      ((deployment.withScales (some scales)).market now >>= g) := by
  have hstate : (deployment.withScales (some scales)).market now =
      (deployment.withScales none).market now >>= fun market => pure (market.scaled scales) := by
    unfold market
    simp only [bind_assoc, pure_bind]
    rfl
  rw [hstate, bind_assoc]
  refine .bind_same ((deployment.withScales none).steady_market now) fun market hmarket => ?_
  rw [pure_bind]
  exact h market (valueOn_market_iff.mp hmarket)

/-- The state of the program and a user's loan are read alike whether or not decimal places are
configured. -/
theorem spares_marketAndLoan {f g : Market × UserLoan → Action Batch}
    (h : ∀ market loan, (deployment.withScales none).Finds snapshot.accounts now market →
      Spares snapshot (f (market, loan)) (g (market.scaled scales, loan))) :
    Spares snapshot ((deployment.withScales none).marketAndLoan owner now >>= f)
      ((deployment.withScales (some scales)).marketAndLoan owner now >>= g) := by
  have hstate : (deployment.withScales (some scales)).marketAndLoan owner now =
      (deployment.withScales none).marketAndLoan owner now >>= fun state =>
        pure (state.1.scaled scales, state.2) := by
    unfold marketAndLoan
    simp only [bind_assoc, pure_bind]
    rfl
  rw [hstate, bind_assoc]
  refine .bind_same ((deployment.withScales none).steady_marketAndLoan owner now)
    fun state hmarket => ?_
  rw [pure_bind]
  exact h state.1 state.2 (valueOn_marketAndLoan_iff.mp hmarket).1

section Builders

variable (h : deployment.ScaledBy snapshot.accounts scales)
include h

private theorem ScaledBy.withScales :
    (deployment.withScales none).ScaledBy snapshot.accounts scales :=
  ⟨h.quote, h.base⟩

private theorem spares_start {amount name symbol uri : String} :
    Spares snapshot ((deployment.withScales none).start owner now amount name symbol uri)
      ((deployment.withScales (some scales)).start owner now amount name symbol uri) := by
  refine spares_market fun market hmarket => ?_
  have hglobal : (market.scaled scales).global = market.global := rfl
  have hnone : market.deployment.scales = none := by rw [hmarket.deployment, withScales]
  dsimp only
  rw [hglobal]
  split
  · exact .refl _
  · exact Market.spares_units amount hnone
      (fun mint => Market.holdsMint_of_scaledBy h.withScales hmarket)
      (fun raw => .freshKey_bind _) fun raw _ => ⟨_, rfl⟩

/-- What is worked out while trading is open needs no mint to be read. -/
theorem spares_trade {market : Market} {asset : Asset} {usage : Plan Market.Usage}
    {f : UInt64 → Market.Usage → Batch} (amount : String)
    (hmarket : (deployment.withScales none).Finds snapshot.accounts now market)
    (htrades : (∃ used, usage.value? = some used) → market.Trades) :
    Spares snapshot
      (market.units asset amount >>= fun raw => liftM usage >>= fun used => pure (f raw used))
      ((market.scaled scales).units asset amount >>= fun raw =>
        liftM usage >>= fun used => pure (f raw used)) :=
  Market.spares_units_plan amount rfl h.withScales hmarket fun hused =>
    Market.exists_mint_of_trades (htrades hused)

private theorem spares_buyWithReferral {amount : String} {referral : Key} :
    Spares snapshot ((deployment.withScales none).buyWithReferral owner now amount referral)
      ((deployment.withScales (some scales)).buyWithReferral owner now amount referral) := by
  unfold buyWithReferral
  dsimp only
  split
  · exact .refl _
  · exact spares_market fun market hmarket =>
      spares_trade h amount hmarket Market.exists_commonUsage_iff.mp

/-- Building with the configured decimal places of the mints spares reading the mints. -/
theorem spares_build :
    Spares snapshot ((deployment.withScales none).build operation owner now)
      ((deployment.withScales (some scales)).build operation owner now) := by
  refine .bind_same (steady_ofInput _) fun _ _ => ?_
  cases operation with
  | setUp | update => exact .refl _
  | start => exact spares_start h
  | buy amount referral =>
    cases referral with
    | none =>
      exact spares_market fun market hmarket =>
        spares_trade h amount hmarket Market.exists_commonUsage_iff.mp
    | some => exact spares_buyWithReferral h
  | sell amount =>
    exact spares_market fun market hmarket =>
      spares_trade h amount hmarket Market.exists_commonUsage_iff.mp
  | borrow amount | leverage amount =>
    exact spares_market fun market hmarket =>
      spares_trade h amount hmarket fun husage => (Market.exists_openLoanUsage_iff.mp husage).1
  | borrowMore amount | repay amount | removeCollateral amount | closePosition amount =>
    exact spares_marketAndLoan fun market loan hmarket =>
      spares_trade h amount hmarket fun husage => (Market.exists_adjustLoanUsage_iff.mp husage).1
  | flashClosePosition | extendLoan =>
    exact spares_marketAndLoan fun market loan hmarket => .refl _
  | liquidate => exact spares_market fun market hmarket => .refl _
  | stake amount | unstake amount =>
    refine spares_market fun market hmarket => .bind_same (steady_ofInput _) fun staking _ => ?_
    refine Market.spares_units_plan amount rfl h.withScales hmarket ?_
    rintro ⟨mint, hmint⟩
    exact ⟨mint, Plan.value?_ofInput_iff.mp hmint⟩

end Builders

/-- With the decimal places of the mints configured, building comes to the same batch as when they are
read from the mints, and it does so wherever it does then. The other way round the reads of the mints
may fail, and building ends with such an error then; on a ledger that does not fail to read an account
there is no difference. With any decimal places configured no mint is read, only the records that the
operation depends on. -/
theorem build_scaled (deployment : Deployment) (operation : Operation) (owner : Key) (now : Int64)
    (ledger : ScriptedLedger) (scales : Scales) :
    (deployment.ScaledBy ledger.accounts scales →
      (∀ batch, (ledger.run ((deployment.withScales none).build operation owner now)).1 =
          .ok (.ok batch) →
        (ledger.run ((deployment.withScales (some scales)).build operation owner now)).1 =
          .ok (.ok batch)) ∧
      (∀ batch, (ledger.run ((deployment.withScales (some scales)).build operation owner now)).1 =
          .ok (.ok batch) →
        (ledger.run ((deployment.withScales none).build operation owner now)).1 =
            .ok (.ok batch) ∨
          ∃ error, ledger.MayFail error ∧
            (ledger.run ((deployment.withScales none).build operation owner now)).1 =
              .ok (.error error)) ∧
      (ledger.Answers → ∀ batch,
        (ledger.run ((deployment.withScales (some scales)).build operation owner now)).1 =
          .ok (.ok batch) ↔
        (ledger.run ((deployment.withScales none).build operation owner now)).1 =
          .ok (.ok batch))) ∧
    ledger.OnlyRead
      (ledger.run ((deployment.withScales (some scales)).build operation owner now)).2
      (deployment.records owner operation) := by
  refine ⟨fun hscales => ?_, ?_⟩
  · have hspares : Spares ledger.snapshot ((deployment.withScales none).build operation owner now)
        ((deployment.withScales (some scales)).build operation owner now) := spares_build hscales
    have hforth := hspares.ends ledger rfl
    have hvalue (batch : Batch)
        (hgiven : (ledger.run ((deployment.withScales (some scales)).build operation owner now)).1 =
          .ok (.ok batch)) :
        valueOn ledger.snapshot ((deployment.withScales none).build operation owner now) =
          some batch := by
      rw [← hspares.value]
      exact (deployment.withScales (some scales)).valueOn_build_of_play hgiven
    refine ⟨hforth, fun batch hgiven => ?_, fun hanswers batch => ⟨fun hgiven => ?_, hforth batch⟩⟩
    · exact (deployment.withScales none).play_build_or (hvalue batch hgiven)
    · exact (deployment.withScales none).play_build_of_valueOn hanswers (hvalue batch hgiven)
  · obtain ⟨mint?, hmint, hread⟩ :=
      (deployment.withScales (some scales)).onlyRead_build operation owner now ledger
    cases mint? with
    | none =>
      rw [Option.toList_none, List.append_nil] at hread
      exact hread
    | some mint =>
      obtain ⟨hnone, -⟩ := hmint mint rfl
      cases hnone

/-- On the sample ledger the quote token has six decimal places, and the base token nine. -/
theorem scaledBy_openLedger : sample.ScaledBy (openLedger 1701000000).accounts ⟨9, 6⟩ := by
  refine ⟨fun config hconfig => ?_, fun global hglobal _ => ?_⟩
  · have hread : (Read.mainState sample.program).value? (openLedger 1701000000).accounts =
        some MainState.sample := by decide +kernel
    have hsame := (Read.value?_required_eq_some_iff.mpr hconfig).symm.trans hread
    rw [Option.some.inj hsame, ← Read.value?_decimals_eq_some_iff]
    decide +kernel
  · have hread : (Read.globalStats sample.program).value? (openLedger 1701000000).accounts =
        some GlobalStats.sample := by decide +kernel
    have hsame := (Read.value?_required_eq_some_iff.mpr hglobal).symm.trans hread
    rw [Option.some.inj hsame, ← Read.value?_decimals_eq_some_iff]
    decide +kernel

/-- With these configured, paying back some of the loan comes to a batch on the sample ledger, and so
it does when they are read. -/
theorem build_scaled_openLedger :
    sample.ScaledBy (openLedger 1701000000).accounts ⟨9, 6⟩ ∧ (openLedger 1701000000).Answers ∧
      ∃ batch, ((openLedger 1701000000).run ((sample.withScales (some ⟨9, 6⟩)).build
        (.repay "1.5") (Octets.filled 32 7) 1700000000)).1 = .ok (.ok batch) := by
  have hanswers := answers_openLedger 1701000000
  obtain ⟨batch, hbatch⟩ := exists_batch_repay
  obtain ⟨hgiven, -⟩ := build_scaled sample (.repay "1.5") (Octets.filled 32 7) 1700000000
    (openLedger 1701000000) ⟨9, 6⟩
  exact ⟨scaledBy_openLedger, hanswers, batch,
    ((hgiven scaledBy_openLedger).2.2 hanswers batch).mpr hbatch⟩

end Deployment

/-- The sample ledger, where three reads of accounts are answered and the fourth one fails. -/
def unansweredLedger : ScriptedLedger where
  accounts := (openLedger 1701000000).accounts
  script := { accountReads := List.replicate 3 ⟨[], .ok ()⟩ ++ [⟨[], .error (.ledger "timeout")⟩] }

/-- There the records are read, but not a mint: with the decimal places configured a repayment comes
to a batch, and without them it ends with the error of the read that failed. -/
theorem Deployment.build_scaled_unansweredLedger :
    sample.ScaledBy unansweredLedger.accounts ⟨9, 6⟩ ∧
    (∃ batch, (unansweredLedger.run ((sample.withScales (some ⟨9, 6⟩)).build (.repay "1.5")
      (Octets.filled 32 7) 1700000000)).1 = .ok (.ok batch)) ∧
    (unansweredLedger.run ((sample.withScales none).build (.repay "1.5") (Octets.filled 32 7)
      1700000000)).1 = .ok (.error (.ledger "timeout")) := by
  obtain ⟨hgiven, hread⟩ :
      (unansweredLedger.run ((sample.withScales (some ⟨9, 6⟩)).build (.repay "1.5")
        (Octets.filled 32 7) 1700000000)).1.map (·.toOption.isSome) = .ok true ∧
      (unansweredLedger.run ((sample.withScales none).build (.repay "1.5") (Octets.filled 32 7)
        1700000000)).1.map (·.map fun _ => ()) = .ok (.error (.ledger "timeout")) := by
    decide +kernel
  exact ⟨scaledBy_openLedger, exists_eq_ok_ok hgiven, eq_ok_error_of_map _ hread⟩

end LendingClient
