import LendingClient.Proofs.Calendar.Span
import LendingClient.Proofs.Operation.Breaking
import LendingClient.Proofs.Run.Lockstep

/-!
# What building makes of the clock

The clock enters a batch through the day that it tells. At two instants of one day the same calls
are made, and they come to the same batch, with one exception: how long an extended loan may still
run is counted from the very instant, so an extension that is refused in the morning may pass in the
evening. Even so, its batch is the same at every instant of the day at which it passes.
-/

namespace LendingClient

open LendingClient.Action ScriptedLedger

/-- Two instants of one day of the calendar. -/
structure Calendar.SameDay (time later : Int) : Prop where
  covers : Covers time
  coversLater : Covers later
  day : time / secondsPerDay = later / secondsPerDay

namespace Calendar.SameDay

variable {time later : Int}

/-- Two instants are of one day whichever comes first. -/
theorem symm (h : SameDay time later) : SameDay later time :=
  ⟨h.coversLater, h.covers, h.day.symm⟩

/-- At two instants of one day the day has one text. -/
theorem dayText_eq (h : SameDay time later) : dayText later = dayText time := by
  obtain ⟨text, htext⟩ := exists_dayText h.covers
  rw [htext]
  exact (dayText_of_div_eq h.day).mp htext

/-- Loans for the same term that are taken on one day mature on one day. -/
theorem maturityDay_iff (h : SameDay time later) {days : UInt64} {text : String} :
    maturityDay time days = .ok text ↔ maturityDay later days = .ok text := by
  rw [maturityDay_eq, maturityDay_eq, h.covers.textAfter_eq_ok_iff,
    h.coversLater.textAfter_eq_ok_iff]
  exact dayText_of_div_eq (by rw [add_days_div, add_days_div, h.day])

end Calendar.SameDay

namespace Market

/-- The same state at another instant. -/
def asOf (market : Market) (now : Int64) : Market :=
  { market with now := now }

variable {market : Market} {owner : Key} {later : Int64}
  (h : Calendar.SameDay market.now.toInt later.toInt)
include h

/-- The accounts of a trade are the same at every instant of a day. -/
private theorem commonUsage_asOf :
    (market.asOf later).commonUsage owner = market.commonUsage owner := by
  have hday : Calendar.dayText (market.asOf later).now.toInt =
      Calendar.dayText market.now.toInt := h.dayText_eq
  unfold commonUsage
  rw [hday]
  rfl

/-- So are those of a change to a loan. -/
private theorem adjustLoanUsage_asOf {loan : UserLoan} :
    (market.asOf later).adjustLoanUsage owner loan = market.adjustLoanUsage owner loan := by
  unfold adjustLoanUsage
  rw [commonUsage_asOf h]
  rfl

/-- Those of a new loan are found at every instant of the day if they are at one. -/
private theorem value?_openLoanUsage_asOf {days : UInt64} {usage : Usage}
    (husage : (market.openLoanUsage owner days).value? = some usage) :
    ((market.asOf later).openLoanUsage owner days).value? = some usage := by
  obtain ⟨common, hcommon, hrest⟩ := Plan.value?_bind_iff.mp husage
  obtain ⟨endDay, hend, hrest⟩ := Plan.value?_bind_iff.mp hrest
  rw [Plan.value?_ofExcept_iff, h.maturityDay_iff] at hend
  rw [← commonUsage_asOf h] at hcommon
  exact Plan.value?_bind_iff.mpr ⟨common, hcommon, Plan.value?_bind_iff.mpr
    ⟨endDay, Plan.value?_ofExcept_iff.mpr hend, hrest⟩⟩

/-- What is left of a loan's term only grows shorter during a day. -/
theorem value?_extendLoanUsage_asOf {loan : UserLoan} {days : UInt64} {usage : Usage}
    (hdays : days.toNat ≤ longestTerm) (horder : market.now.toInt ≤ later.toInt)
    (husage : (market.extendLoanUsage owner loan days).value? = some usage) :
    ((market.asOf later).extendLoanUsage owner loan days).value? = some usage := by
  obtain ⟨newEnd, hnewEnd, hrest⟩ := Plan.value?_bind_iff.mp husage
  obtain ⟨common, hcommon, hrest⟩ := Plan.value?_bind_iff.mp hrest
  have hend : Calendar.Covers loan.endDate.toInt := by
    obtain ⟨oldDay, hold, -⟩ := Plan.value?_bind_iff.mp hrest
    exact (Calendar.dayText_eq_ok_iff.mp (Plan.value?_ofExcept_iff.mp hold)).1
  obtain ⟨hterm, hnewEnd⟩ := (value?_extendedEnd_iff hdays h.covers hend).mp hnewEnd
  have hlater : (loan.endDate.toInt + days.toNat * Calendar.secondsPerDay -
      later.toInt).tdiv Calendar.secondsPerDay ≤ longestTerm :=
    Int.le_trans (Int.tdiv_le_tdiv (by decide) (by omega)) hterm
  rw [← commonUsage_asOf h] at hcommon
  refine Plan.value?_bind_iff.mpr ⟨newEnd, ?_, Plan.value?_bind_iff.mpr ⟨common, hcommon, hrest⟩⟩
  exact (value?_extendedEnd_iff hdays h.coversLater hend).mpr ⟨hlater, hnewEnd⟩

end Market

namespace Deployment

variable {deployment : Deployment} {operation : Operation} {owner : Key} {now later : Int64}

/-- The state of the program is read alike at two instants, and is that of its instant. -/
theorem leads_market {β : Type} {R : β → β → Prop} {f g : Market → Action β}
    (hnext : ∀ market : Market, market.now = now → Leads R (f market) (g (market.asOf later))) :
    Leads R (deployment.market now >>= f) (deployment.market later >>= g) := by
  have hstate : Leads (fun market other => market.now = now ∧ other = market.asOf later)
      (deployment.market now) (deployment.market later) := .bind_same fun _ => .pure ⟨rfl, rfl⟩
  refine hstate.bind ?_
  rintro market _ ⟨hnow, rfl⟩
  exact hnext market hnow

/-- The state of the program and a user's loan are read alike at two instants. -/
theorem leads_marketAndLoan {β : Type} {R : β → β → Prop} {f g : Market × UserLoan → Action β}
    (hnext : ∀ (market : Market) (loan : UserLoan), market.now = now →
      Leads R (f (market, loan)) (g (market.asOf later, loan))) :
    Leads R (deployment.marketAndLoan owner now >>= f)
      (deployment.marketAndLoan owner later >>= g) := by
  have hstate : Leads (fun state other => state.1.now = now ∧ other = (state.1.asOf later, state.2))
      (deployment.marketAndLoan owner now) (deployment.marketAndLoan owner later) :=
    .bind_same fun _ => .pure ⟨rfl, rfl⟩
  refine hstate.bind ?_
  rintro ⟨market, loan⟩ _ ⟨hnow, rfl⟩
  exact hnext market loan hnow

section SameDay

variable (h : Calendar.SameDay now.toInt later.toInt)
include h

/-- What follows the accounts of a trade is the same at two instants of a day. -/
theorem leads_commonUsage {market : Market} (hnow : market.now = now)
    {f : Market.Usage → Action Batch} :
    Leads Eq ((liftM (market.commonUsage owner) : Action Market.Usage) >>= f)
      ((liftM ((market.asOf later).commonUsage owner) : Action Market.Usage) >>= f) := by
  rw [← hnow] at h
  rw [Market.commonUsage_asOf h]
  exact .refl _

/-- What follows the accounts of a change to a loan is the same at two instants of a day. -/
private theorem leads_adjustLoanUsage {market : Market} {loan : UserLoan} (hnow : market.now = now)
    {f : Market.Usage → Action Batch} :
    Leads Eq ((liftM (market.adjustLoanUsage owner loan) : Action Market.Usage) >>= f)
      ((liftM ((market.asOf later).adjustLoanUsage owner loan) : Action Market.Usage) >>= f) := by
  rw [← hnow] at h
  rw [Market.adjustLoanUsage_asOf h]
  exact .refl _

private theorem leads_buyWithReferral {amount : String} {referral : Key} :
    Leads Eq (deployment.buyWithReferral owner now amount referral)
      (deployment.buyWithReferral owner later amount referral) := by
  unfold buyWithReferral
  dsimp only
  split
  · exact .throw _ _
  · exact leads_market fun _ hnow => .bind_same fun _ => leads_commonUsage h hnow

private theorem leads_openLoan {kind : InstructionKind} {amount : String} {days : UInt64} :
    Leads Eq (deployment.openLoan kind owner now amount days)
      (deployment.openLoan kind owner later amount days) := by
  refine leads_market fun market hnow => .bind_same fun units => ?_
  rw [← hnow] at h
  exact .plan_bind_same fun usage husage => Market.value?_openLoanUsage_asOf h husage

private theorem leads_adjustLoan {kind : InstructionKind} {asset : Asset} {amount : String} :
    Leads Eq (deployment.adjustLoan kind owner now asset amount)
      (deployment.adjustLoan kind owner later asset amount) :=
  leads_marketAndLoan fun _ _ hnow => .bind_same fun _ => leads_adjustLoanUsage h hnow

/-- An extension at an instant is one at any later instant of the day. -/
theorem leads_extendLoan {days : UInt64} (hdays : days.toNat ≤ longestTerm)
    (horder : now.toInt ≤ later.toInt) :
    Leads Eq (deployment.extendLoan owner now days) (deployment.extendLoan owner later days) := by
  refine leads_marketAndLoan fun market loan hnow => ?_
  rw [← hnow] at h horder
  exact .plan_bind_same fun usage husage =>
    Market.value?_extendLoanUsage_asOf h hdays horder husage

/-- Building at an instant leads building at any instant of the day, or, if a loan is extended, at any
later one. -/
theorem leads_build (horder : (∃ days, operation = .extendLoan days) → now.toInt ≤ later.toInt) :
    Leads Eq (deployment.build operation owner now) (deployment.build operation owner later) := by
  refine .checked fun _ hvalid => ?_
  rw [Operation.validate_ok_iff] at hvalid
  cases operation with
  | setUp | update => exact .refl _
  | start => exact leads_market fun _ _ => .refl _
  | buy amount referral =>
    cases referral with
    | none => exact leads_market fun _ hnow => .bind_same fun _ => leads_commonUsage h hnow
    | some referral => exact leads_buyWithReferral h
  | sell => exact leads_market fun _ hnow => .bind_same fun _ => leads_commonUsage h hnow
  | liquidate => exact leads_market fun _ hnow => leads_commonUsage h hnow
  | borrow | leverage => exact leads_openLoan h
  | borrowMore | repay | removeCollateral | closePosition => exact leads_adjustLoan h
  | flashClosePosition => exact leads_marketAndLoan fun _ _ hnow => leads_adjustLoanUsage h hnow
  | extendLoan days => exact leads_extendLoan h hvalid.2 (horder ⟨days, rfl⟩)
  | stake | unstake => exact leads_market fun _ _ => .refl _

/-- What building makes of a ledger at an instant, it makes of it at any instant of the day, or, if a
loan is extended, at any later one. -/
theorem play_build_sameDay {ledger : ScriptedLedger} {batch : Batch}
    (horder : (∃ days, operation = .extendLoan days) → now.toInt ≤ later.toInt)
    (hbuild : (ledger.play (deployment.build operation owner now).run).1 = .ok (.ok batch)) :
    (ledger.play (deployment.build operation owner later).run).1 = .ok (.ok batch) := by
  obtain ⟨other, hother, rfl⟩ := play_of_leads (leads_build h horder) (Prod.ext hbuild rfl)
  rw [hother]

end SameDay

/-- Building fails with an error unless it comes to a batch or a loan is extended. -/
theorem exists_batch_or_error (ledger : ScriptedLedger)
    (hother : ∀ days, operation ≠ .extendLoan days) :
    (∃ batch, (ledger.play (deployment.build operation owner now).run).1 = .ok (.ok batch)) ∨
      ∃ error, (ledger.play (deployment.build operation owner now).run).1 =
        .ok (.error error) := by
  cases hbuild : (ledger.play (deployment.build operation owner now).run).1 with
  | error why =>
    obtain ⟨days, _, _, hextends, -⟩ := deployment.exists_of_play_build hbuild
    exact absurd hextends (hother days)
  | ok ending =>
    cases ending with
    | ok batch => exact .inl ⟨batch, rfl⟩
    | error error => exact .inr ⟨error, rfl⟩

/-- Of the clock, a batch depends on the day alone. At any two instants of a day of the calendar,
building comes to the same batch on the same ledger, or to an error at both, unless a loan is
extended. An extension that passes at one instant passes at any later one of the day with the same
batch, and wherever in the day it passes, the batch is the same. -/
theorem build_sameDay (deployment : Deployment) (operation : Operation) (owner : Key)
    (now later : Int64) (ledger : ScriptedLedger)
    (h : Calendar.SameDay now.toInt later.toInt) :
    ((∀ days, operation ≠ .extendLoan days) →
      (∃ batch, (ledger.run (deployment.build operation owner now)).1 = .ok (.ok batch) ∧
        (ledger.run (deployment.build operation owner later)).1 = .ok (.ok batch)) ∨
      ∃ error other, (ledger.run (deployment.build operation owner now)).1 = .ok (.error error) ∧
        (ledger.run (deployment.build operation owner later)).1 = .ok (.error other)) ∧
    (now ≤ later → ∀ batch,
      (ledger.run (deployment.build operation owner now)).1 = .ok (.ok batch) →
        (ledger.run (deployment.build operation owner later)).1 = .ok (.ok batch)) ∧
    ∀ batch other, (ledger.run (deployment.build operation owner now)).1 = .ok (.ok batch) →
      (ledger.run (deployment.build operation owner later)).1 = .ok (.ok other) →
        batch = other := by
  refine ⟨fun hother => ?_, fun horder batch hbuild => ?_, fun batch other hbuild hlater => ?_⟩
  · have hany (now later : Int64) :
        (∃ days, operation = .extendLoan days) → now.toInt ≤ later.toInt :=
      fun ⟨days, hextends⟩ => absurd hextends (hother days)
    rcases exists_batch_or_error ledger hother with ⟨batch, hbuild⟩ | ⟨error, herror⟩
    · exact .inl ⟨batch, hbuild, play_build_sameDay h (hany now later) hbuild⟩
    · rcases exists_batch_or_error ledger hother with ⟨batch, hlater⟩ | ⟨other, hlater⟩
      · have hbuild := play_build_sameDay h.symm (hany later now) hlater
        rw [herror] at hbuild
        cases hbuild
      · exact .inr ⟨error, other, herror, hlater⟩
  · exact play_build_sameDay h (fun _ => Int64.le_iff_toInt_le.mp horder) hbuild
  -- which of the instants is the later one matters to an extension alone
  · rcases Int.le_total now.toInt later.toInt with horder | horder
    · have hsame := (play_build_sameDay h (fun _ => horder) hbuild).symm.trans hlater
      exact Except.ok.inj (Except.ok.inj hsame)
    · have hsame := (play_build_sameDay h.symm (fun _ => horder) hlater).symm.trans hbuild
      exact (Except.ok.inj (Except.ok.inj hsame)).symm

/-- On a ledger where an extension would make a loan a second too long, it passes an hour later, and
then for the rest of the day. -/
theorem build_sameDay_openLedger :
    ((openLedger 1731190400).run (sample.build (.extendLoan 5) (Octets.filled 32 7)
      1700000000)).1.map (·.map fun _ => ()) = .ok (.error (.input (.extendedTooFar 366))) ∧
    Calendar.SameDay (1700003600 : Int64).toInt (1700006399 : Int64).toInt ∧
    ∃ batch, ((openLedger 1731190400).run (sample.build (.extendLoan 5) (Octets.filled 32 7)
        1700003600)).1 = .ok (.ok batch) ∧
      ((openLedger 1731190400).run (sample.build (.extendLoan 5) (Octets.filled 32 7)
        1700006399)).1 = .ok (.ok batch) := by
  have hday : Calendar.SameDay (1700003600 : Int64).toInt (1700006399 : Int64).toInt :=
    ⟨by decide, by decide, by decide⟩
  obtain ⟨batch, hbatch⟩ : ∃ batch, ((openLedger 1731190400).run (sample.build (.extendLoan 5)
      (Octets.filled 32 7) 1700003600)).1 = .ok (.ok batch) :=
    exists_eq_ok_ok (by decide +kernel)
  obtain ⟨-, hlater, -⟩ := build_sameDay sample (.extendLoan 5) (Octets.filled 32 7) 1700003600
    1700006399 (openLedger 1731190400) hday
  exact ⟨by decide +kernel, hday, batch, hbatch, hlater (by decide) batch hbatch⟩

end Deployment

end LendingClient
