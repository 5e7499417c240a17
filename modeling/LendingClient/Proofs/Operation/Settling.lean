import LendingClient.Proofs.Operation.Value
import LendingClient.Proofs.Run.Steady

/-!
# Building does not break off

Whatever the accounts hold, building comes to a batch or to an error, with one exception: when a loan
is extended, the rest of its term may not fit 64 bits. Apart from that, building is steady: a ledger
that follows a script carries it to the value that it has on the accounts, however slowly it
answers, unless it fails to read one of them.
-/

namespace LendingClient

open LendingClient.Action

variable {snapshot : Snapshot}

/-- A check of the input is steady. -/
theorem steady_ofInput {α : Type} (value : Except InputFault α) :
    Steady snapshot (liftM (Plan.ofInput value) : Action α) :=
  .plan (Plan.whole_ofInput value)

namespace Market

variable (market : Market)

/-- To find the decimal places of an asset is steady. -/
theorem steady_decimals (asset : Asset) : Steady snapshot (market.decimals asset) := by
  unfold decimals
  cases market.deployment.scales with
  | some scales => exact .pure _
  | none => exact (steady_ofInput _).bind fun mint => (Read.decimals mint).steady_perform

/-- To find the units of an amount is steady. -/
theorem steady_units (asset : Asset) (input : String) :
    Steady snapshot (market.units asset input) :=
  (market.steady_decimals asset).bind fun _ => steady_ofInput _

/-- The totals of a day in the calendar have an address. -/
theorem whole_dayAccount {time : Int} {day : String} (h : Calendar.dayText time = .ok day) :
    (market.dayAccount day).Whole := by
  obtain ⟨found, hfound⟩ := Address.exists_dailyStats_of_dayText market.program h
  unfold dayAccount
  rw [hfound]
  exact Plan.whole_bind (Plan.whole_ofExcept (.ok found)) fun _ _ => Plan.whole_pure _

/-- The text of a day in the calendar is whole, and so is what is worked out from it. -/
theorem whole_dayText_bind {α : Type} {time : Int} {f : String → Plan α}
    (hf : ∀ day, Calendar.dayText time = .ok day → (f day).Whole) :
    (Plan.ofExcept (Calendar.dayText time) >>= f).Whole := by
  refine Plan.whole_bind (Plan.whole_ofExcept _) fun day hday => hf day ?_
  exact Plan.value?_ofExcept_iff.mp hday

/-- The accounts of a trade are worked out to an end. -/
theorem whole_commonUsage (owner : Key) : (market.commonUsage owner).Whole := by
  refine Plan.whole_bind (Plan.whole_ofInput _) fun mint _ => ?_
  refine whole_dayText_bind fun today htoday => ?_
  refine whole_dayText_bind fun settled hsettled => ?_
  refine Plan.whole_bind (market.whole_dayAccount htoday) fun todayAccount _ => ?_
  exact Plan.whole_bind (market.whole_dayAccount hsettled) fun _ _ => Plan.whole_pure _

/-- The accounts of a new loan are worked out to an end. -/
theorem whole_openLoanUsage (owner : Key) (days : UInt64) :
    (market.openLoanUsage owner days).Whole := by
  refine Plan.whole_bind (market.whole_commonUsage owner) fun common _ => ?_
  refine Plan.whole_bind (Plan.whole_ofExcept _) fun endDay hday => ?_
  obtain ⟨time, htime⟩ :=
    Calendar.exists_dayText_of_maturityDay (Plan.value?_ofExcept_iff.mp hday)
  exact Plan.whole_bind (market.whole_dayAccount htime) fun _ _ => Plan.whole_pure _

/-- The accounts of a change to a loan are worked out to an end. -/
theorem whole_adjustLoanUsage (owner : Key) (loan : UserLoan) :
    (market.adjustLoanUsage owner loan).Whole := by
  refine Plan.whole_bind (market.whole_commonUsage owner) fun common _ => ?_
  refine whole_dayText_bind fun endDay hday => ?_
  exact Plan.whole_bind (market.whole_dayAccount hday) fun _ _ => Plan.whole_pure _

end Market

/-- What is left of a loan's term at an instant, once the loan runs some days longer. Timestamps end
somewhere, and so does the loan then. -/
def UserLoan.termAfter (loan : UserLoan) (days : UInt64) (now : Int64) : Int :=
  min (loan.endDate.toInt + days.toNat * Calendar.secondsPerDay) Market.lastInstant - now.toInt

namespace Market

variable (market : Market)

/-- Extending a loan does not break off if the rest of its term fits 64 bits. -/
theorem whole_extendedEnd {loan : UserLoan} {days : UInt64}
    (h : Calendar.fitsTimestamp (loan.termAfter days market.now)) :
    (market.extendedEnd loan days).Whole := by
  have hlimit (newEnd remaining : Int) :
      (if (longestTerm : Int) < remaining then throw (.input (.extendedTooFar remaining))
        else pure newEnd : Plan Int).Whole :=
    Plan.whole_ite (fun _ => Plan.whole_throw _) (fun _ => Plan.whole_pure _)
  unfold extendedEnd
  refine Plan.whole_ite (fun _ => Plan.whole_throw _) fun _ => ?_
  refine Plan.whole_ite (fun hleft => ?_) fun _ => hlimit _ _
  unfold UserLoan.termAfter at h
  rw [h] at hleft
  cases hleft

/-- The accounts of an extension are worked out to an end, as long as what is left of the term fits
64 bits. -/
theorem whole_extendLoanUsage {loan : UserLoan} {days : UInt64} (owner : Key)
    (h : Calendar.fitsTimestamp (loan.termAfter days market.now)) :
    (market.extendLoanUsage owner loan days).Whole := by
  refine Plan.whole_bind (market.whole_extendedEnd h) fun newEnd _ => ?_
  refine Plan.whole_bind (market.whole_commonUsage owner) fun common _ => ?_
  refine whole_dayText_bind fun oldDay hold => ?_
  refine whole_dayText_bind fun newDay hnew => ?_
  refine Plan.whole_bind (market.whole_dayAccount hold) fun oldAccount _ => ?_
  exact Plan.whole_bind (market.whole_dayAccount hnew) fun _ _ => Plan.whole_pure _

/-- Extending a loan breaks off if the rest of its term does not fit 64 bits. -/
theorem run_extendLoanUsage {loan : UserLoan} {days : UInt64} (owner : Key)
    (hdays : days.toNat ≤ longestTerm)
    (h : ¬ Calendar.fitsTimestamp (loan.termAfter days market.now)) :
    (market.extendLoanUsage owner loan days).run = .error .termOverflow := by
  have hextra := Calendar.fitsTimestamp_of_term hdays
  have hend : (market.extendedEnd loan days).run = .error .termOverflow := by
    unfold extendedEnd
    unfold UserLoan.termAfter at h
    rw [if_neg (by simp [hextra]), if_pos (by simpa using h)]
    rfl
  rw [extendLoanUsage, Plan.run_bind, hend]
  rfl

end Market

namespace Deployment

variable (deployment : Deployment)

/-- To read the state of the program is steady. -/
theorem steady_market (now : Int64) : Steady snapshot (deployment.market now) :=
  (Read.steady_both _ _).bind fun _ => .pure _

/-- To read the loan of a user together with it is steady. -/
theorem steady_marketAndLoan (owner : Key) (now : Int64) :
    Steady snapshot (deployment.marketAndLoan owner now) :=
  (Read.steady_allThree _ _ _).bind fun _ => .pure _

private theorem steady_setUp (admin feeReceiver quoteMint : Key)
    (buyFee sellFee leverageFee : String) :
    Steady snapshot (deployment.setUp admin feeReceiver quoteMint buyFee sellFee leverageFee) := by
  refine (steady_ofInput _).bind fun sellFee => ?_
  refine (steady_ofInput _).bind fun buyFee => ?_
  refine (steady_ofInput _).bind fun leverageFee => ?_
  refine (Read.steady_perform _).bind fun present => ?_
  cases present with
  | none => exact .pure _
  | some => exact .throw _

private theorem steady_update (admin : Key) (change : ConfigChange) :
    Steady snapshot (deployment.update admin change) := by
  refine (steady_ofInput _).bind fun args => ?_
  refine (Read.steady_perform _).bind fun config => ?_
  dsimp only
  split
  · exact .throw _
  · split
    · exact .throw _
    · exact .pure _

/-- Opening trading settles. It is not steady, since it makes a key. -/
private theorem settles_start (admin : Key) (now : Int64) (amount name symbol uri : String) :
    Settles snapshot (deployment.start admin now amount name symbol uri) := by
  refine (deployment.steady_market now).bind_settles fun market _ => ?_
  dsimp only
  split
  · exact (Steady.throw _).settles
  · exact (market.steady_units _ _).bind_settles fun units _ => settles_freshKey _

private theorem steady_buy (owner : Key) (now : Int64) (amount : String) :
    Steady snapshot (deployment.buy owner now amount) := by
  refine (deployment.steady_market now).bind fun market => ?_
  refine (market.steady_units _ _).bind fun units => ?_
  exact (Steady.plan (market.whole_commonUsage owner)).bind fun usage => .pure _

private theorem steady_buyWithReferral (owner : Key) (now : Int64) (amount : String)
    (referral : Key) :
    Steady snapshot (deployment.buyWithReferral owner now amount referral) := by
  unfold buyWithReferral
  dsimp only
  split
  · exact .throw _
  · refine (deployment.steady_market now).bind fun market => ?_
    refine (market.steady_units _ _).bind fun units => ?_
    exact (Steady.plan (market.whole_commonUsage owner)).bind fun usage => .pure _

private theorem steady_sell (owner : Key) (now : Int64) (amount : String) :
    Steady snapshot (deployment.sell owner now amount) := by
  refine (deployment.steady_market now).bind fun market => ?_
  refine (market.steady_units _ _).bind fun units => ?_
  exact (Steady.plan (market.whole_commonUsage owner)).bind fun usage => .pure _

private theorem steady_liquidate (owner : Key) (now : Int64) :
    Steady snapshot (deployment.liquidate owner now) := by
  refine (deployment.steady_market now).bind fun market => ?_
  exact (Steady.plan (market.whole_commonUsage owner)).bind fun usage => .pure _

private theorem steady_openLoan (kind : InstructionKind) (owner : Key) (now : Int64) (amount : String)
    (days : UInt64) : Steady snapshot (deployment.openLoan kind owner now amount days) := by
  refine (deployment.steady_market now).bind fun market => ?_
  refine (market.steady_units _ _).bind fun units => ?_
  exact (Steady.plan (market.whole_openLoanUsage owner days)).bind fun usage => .pure _

private theorem steady_adjustLoan (kind : InstructionKind) (owner : Key) (now : Int64) (asset : Asset)
    (amount : String) : Steady snapshot (deployment.adjustLoan kind owner now asset amount) := by
  refine (deployment.steady_marketAndLoan owner now).bind fun state => ?_
  refine (state.1.steady_units _ _).bind fun units => ?_
  exact (Steady.plan (state.1.whole_adjustLoanUsage owner state.2)).bind fun usage => .pure _

private theorem steady_flashClose (owner : Key) (now : Int64) :
    Steady snapshot (deployment.flashClose owner now) := by
  refine (deployment.steady_marketAndLoan owner now).bind fun state => ?_
  exact (Steady.plan (state.1.whole_adjustLoanUsage owner state.2)).bind fun usage => .pure _

/-- Extending a loan is steady if the rest of its term fits 64 bits. -/
theorem steady_extendLoan {owner : Key} {now : Int64} {days : UInt64}
    (h : ∀ market loan,
      valueOn snapshot (deployment.marketAndLoan owner now) = some (market, loan) →
        Calendar.fitsTimestamp (loan.termAfter days now)) :
    Steady snapshot (deployment.extendLoan owner now days) := by
  refine (deployment.steady_marketAndLoan owner now).bind_of_value fun state hstate => ?_
  have hfits := h state.1 state.2 hstate
  rw [← (valueOn_marketAndLoan_iff.mp hstate).1.now] at hfits
  have hplan := state.1.whole_extendLoanUsage owner hfits
  dsimp only
  -- the plan is named because unification would compute with the bounds of the calendar in it
  generalize state.1.extendLoanUsage owner state.2 days = plan at hplan
  exact (Steady.plan hplan).bind fun usage => .pure _

private theorem steady_stake (owner : Key) (now : Int64) (amount : String) :
    Steady snapshot (deployment.stake owner now amount) := by
  refine (deployment.steady_market now).bind fun market => ?_
  refine (steady_ofInput _).bind fun staking => ?_
  refine (market.steady_units _ _).bind fun units => ?_
  exact (steady_ofInput _).bind fun mint => .pure _

private theorem steady_unstake (owner : Key) (now : Int64) (amount : String) :
    Steady snapshot (deployment.unstake owner now amount) := by
  refine (deployment.steady_market now).bind fun market => ?_
  refine (steady_ofInput _).bind fun staking => ?_
  refine (market.steady_units _ _).bind fun units => ?_
  exact (steady_ofInput _).bind fun mint => .pure _

/-- The loan that an operation extends has a term whose rest fits 64 bits. -/
def TermFits (operation : Operation) (owner : Key) (now : Int64) (snapshot : Snapshot) : Prop :=
  ∀ days market loan, operation = .extendLoan days →
    valueOn snapshot (deployment.marketAndLoan owner now) = some (market, loan) →
      Calendar.fitsTimestamp (loan.termAfter days now)

/-- Building settles, whatever the operation and whatever is read, unless a loan is extended and the
rest of its term does not fit 64 bits. -/
theorem settles_build {operation : Operation} {owner : Key} {now : Int64}
    (h : deployment.TermFits operation owner now snapshot) :
    Settles snapshot (deployment.build operation owner now) := by
  refine (steady_ofInput _).bind_settles fun _ _ => ?_
  cases operation with
  | setUp => exact (deployment.steady_setUp ..).settles
  | update => exact (deployment.steady_update ..).settles
  | start => exact deployment.settles_start ..
  | buy amount referral =>
    cases referral with
    | none => exact (deployment.steady_buy ..).settles
    | some => exact (deployment.steady_buyWithReferral ..).settles
  | sell => exact (deployment.steady_sell ..).settles
  | borrow => exact (deployment.steady_openLoan ..).settles
  | borrowMore => exact (deployment.steady_adjustLoan ..).settles
  | leverage => exact (deployment.steady_openLoan ..).settles
  | extendLoan days =>
    exact (deployment.steady_extendLoan fun market loan => h days market loan rfl).settles
  | repay => exact (deployment.steady_adjustLoan ..).settles
  | removeCollateral => exact (deployment.steady_adjustLoan ..).settles
  | closePosition => exact (deployment.steady_adjustLoan ..).settles
  | flashClosePosition => exact (deployment.steady_flashClose ..).settles
  | liquidate => exact (deployment.steady_liquidate ..).settles
  | stake => exact (deployment.steady_stake ..).settles
  | unstake => exact (deployment.steady_unstake ..).settles

end Deployment

end LendingClient
