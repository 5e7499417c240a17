import LendingClient.Proofs.Calendar.Span
import LendingClient.Proofs.Operation.Buckets

/-!
# When loans mature

The program adds loans up by the day on which they mature, so all operations have to find that day
alike. A new loan names it by its term, an operation on the present loan by the end in its record,
and an extension by that end and the days that are added. The three ways agree: a record whose end
lies in the day that the new loan named is found there ever after, and is moved to where a loan for
all of the days would have been.
-/

namespace LendingClient

open LendingClient.Action

namespace Operation

/-- The term of the loan that an operation takes. -/
def opens? : Operation → Option UInt64
  | .borrow _ term | .leverage _ term => some term
  | _ => none

/-- Whether an operation is about the present loan and leaves it the day on which it matures. -/
def adjustsLoan : Operation → Bool
  | .borrowMore _ | .repay _ | .removeCollateral _ | .closePosition _ | .flashClosePosition => true
  | _ => false

end Operation

/-- An extended loan ends at most the longest term and a day from now. -/
theorem Market.end_le_of_extendLoanUsage {market : Market} {owner : Key} {loan : UserLoan}
    {days : UInt64} {usage : Market.Usage} (hterm : days.toNat ≤ longestTerm)
    (h : (market.extendLoanUsage owner loan days).value? = some usage) :
    (loan.endDate.toInt + days.toNat * Calendar.secondsPerDay) / Calendar.secondsPerDay ≤
      market.now.toInt / Calendar.secondsPerDay + 366 := by
  obtain ⟨-, hextends⟩ := (exists_extendLoanUsage_iff hterm).mp ⟨usage, h⟩
  have hleft := hextends.term
  generalize loan.endDate.toInt + days.toNat * Calendar.secondsPerDay = newEnd at hleft ⊢
  -- what is left of the last day is cut off, so the seconds may come to a day more
  have hseconds : newEnd - market.now.toInt < 366 * Calendar.secondsPerDay := by
    by_contra hmore
    unfold longestTerm at hleft
    unfold Calendar.secondsPerDay at hleft hmore
    rw [Int.tdiv_eq_ediv_of_nonneg (by omega)] at hleft
    omega
  unfold Calendar.secondsPerDay at hseconds ⊢
  omega

namespace Deployment

variable {deployment : Deployment} {operation : Operation} {owner : Key} {now : Int64}
  {snapshot : Snapshot} {batch : Batch}

/-- A user has one open loan at most. -/
theorem FindsLoan.unique {accounts : Accounts} {loan other : UserLoan}
    (h : deployment.FindsLoan accounts owner loan)
    (hother : deployment.FindsLoan accounts owner other) : loan = other := by
  obtain ⟨data, hdata, hread⟩ := h.record
  obtain ⟨otherData, hotherData, hotherRead⟩ := hother.record
  cases hdata.symm.trans hotherData
  exact Except.ok.inj (hread.symm.trans hotherRead)

section ValueOn

variable (h : valueOn snapshot (deployment.build operation owner now) = some batch)
include h

/-- The third day of a new loan is that on which a loan of its term matures. -/
private theorem days_of_opens {term : UInt64} (hopens : operation.opens? = some term) :
    Operation.Term term ∧ ∃ today settled bucket, batch.days = [today, settled, bucket] ∧
      Calendar.dayText now.toInt = .ok today ∧
      Calendar.maturityDay now.toInt term = .ok bucket := by
  obtain ⟨_, hvalid, -⟩ := valueOn_bind_iff.mp h
  rw [valueOn_ofInput_iff, Operation.validate_ok_iff] at hvalid
  obtain ⟨_, _, hdays, -⟩ := (namesBuckets_of_valueOn h).derived
  cases operation with
  | borrow amount days | leverage amount days =>
    cases hopens
    simp only [Operation.bucketDays, List.map_eq_cons_iff, List.map_eq_nil_iff] at hdays
    obtain ⟨today, _, hdays, htoday, settled, _, rfl, -, bucket, _, rfl, hbucket, rfl⟩ := hdays
    exact ⟨hvalid.2, today, settled, bucket, hdays, htoday.symm, hbucket.symm⟩
  | _ => cases hopens

/-- The third day of a change to a loan is that on which the loan ends. -/
private theorem days_of_adjusts (hadjusts : operation.adjustsLoan = true) :
    ∃ loan today settled bucket, deployment.FindsLoan snapshot.accounts owner loan ∧
      batch.days = [today, settled, bucket] ∧
      Calendar.dayText loan.endDate.toInt = .ok bucket := by
  obtain ⟨_, _, hdays, -, hfinds⟩ := (namesBuckets_of_valueOn h).derived
  cases operation with
  | borrowMore | repay | removeCollateral | closePosition | flashClosePosition =>
    obtain ⟨loan, hloan, rfl⟩ := hfinds rfl
    simp only [Operation.bucketDays, List.map_eq_cons_iff, List.map_eq_nil_iff] at hdays
    obtain ⟨today, _, hdays, -, settled, _, rfl, -, bucket, _, rfl, hbucket, rfl⟩ := hdays
    exact ⟨loan, today, settled, bucket, hloan, hdays, hbucket.symm⟩
  | _ => cases hadjusts

end ValueOn

/-- The last two days of an extension are those on which the loan ends before and after, and the
later one is at most 366 days ahead. -/
private theorem days_of_extendLoan {extra : UInt64}
    (h : valueOn snapshot (deployment.build (.extendLoan extra) owner now) = some batch) :
    Operation.Term extra ∧ ∃ loan today settled bucket extended,
      deployment.FindsLoan snapshot.accounts owner loan ∧
      batch.days = [today, settled, bucket, extended] ∧
      Calendar.dayText now.toInt = .ok today ∧
      Calendar.dayText loan.endDate.toInt = .ok bucket ∧
      Calendar.dayText (loan.endDate.toInt + extra.toNat * Calendar.secondsPerDay) =
        .ok extended ∧
      (loan.endDate.toInt + extra.toNat * Calendar.secondsPerDay) / Calendar.secondsPerDay ≤
        now.toInt / Calendar.secondsPerDay + 366 := by
  obtain ⟨_, hvalid, hbatch⟩ := valueOn_bind_iff.mp h
  rw [valueOn_ofInput_iff, Operation.validate_ok_iff] at hvalid
  obtain ⟨market, loan, ⟨hmarket, hloan⟩, usage, husage, -⟩ := valueOn_extendLoan_iff.mp hbatch
  have hahead := Market.end_le_of_extendLoanUsage hvalid.2 husage
  rw [hmarket.now] at hahead
  obtain ⟨_, _, hdays, -, hfinds⟩ := (namesBuckets_of_valueOn h).derived
  obtain ⟨found, hfound, rfl⟩ := hfinds rfl
  obtain rfl := hfound.unique hloan
  simp only [Operation.bucketDays, List.map_eq_cons_iff, List.map_eq_nil_iff] at hdays
  obtain ⟨today, _, hdays, htoday, settled, _, rfl, -, bucket, _, rfl, hbucket, extended, _, rfl,
    hextended, rfl⟩ := hdays
  exact ⟨hvalid, found, today, settled, bucket, extended, hloan, hdays, htoday.symm, hbucket.symm,
    hextended.symm, hahead⟩

/-- The days that batches name for loans line up. A new loan matures one day after its term, counted
from today, and an extension moves the day of the loan's end by exactly its days. Neither day is
more than 366 days ahead. A loan whose end lies in the day that a new loan would have named at some
instant is found there by every operation on it, and an extension moves it to the day that a loan
for all of the days would have named at that instant. -/
theorem build_matures (deployment : Deployment) (operation : Operation) (owner : Key) (now : Int64)
    (ledger : ScriptedLedger) (batch : Batch)
    (h : (ledger.run (deployment.build operation owner now)).1 = .ok (.ok batch)) :
    (∀ term, operation.opens? = some term → ∃ today settled bucket,
      batch.days = [today, settled, bucket] ∧ Calendar.dayText now.toInt = .ok today ∧
      Calendar.maturityDay now.toInt term = .ok bucket ∧
      Calendar.LiesAfter (term.toNat + 1) today bucket ∧ term.toNat + 1 ≤ 366) ∧
    (∀ extra, operation = .extendLoan extra → ∃ loan today settled bucket extended,
      deployment.FindsLoan ledger.accounts owner loan ∧
      batch.days = [today, settled, bucket, extended] ∧
      Calendar.dayText now.toInt = .ok today ∧
      Calendar.dayText loan.endDate.toInt = .ok bucket ∧
      Calendar.LiesAfter extra.toNat bucket extended ∧ bucket ≠ extended ∧
      ∃ ahead ≤ 366, Calendar.LiesAfter ahead today extended) ∧
    ∀ (start : Int64) (term : UInt64) (bucket : String) (loan : UserLoan), Operation.Term term →
      Calendar.maturityDay start.toInt term = .ok bucket →
      deployment.FindsLoan ledger.accounts owner loan →
      Calendar.dayText loan.endDate.toInt = .ok bucket →
      (operation.adjustsLoan = true → batch.days[2]? = some bucket) ∧
      ∀ extra, operation = .extendLoan extra → batch.days[2]? = some bucket ∧
        ∃ extended, batch.days[3]? = some extended ∧
          Calendar.maturityDay start.toInt (term + extra) = .ok extended := by
  have hvalue := deployment.valueOn_build_of_play h
  refine ⟨fun term hopens => ?_, ?_,
    fun start term bucket loan hterm hmatures hloan hend => ⟨?_, ?_⟩⟩
  · obtain ⟨hterm, today, settled, bucket, hdays, htoday, hbucket⟩ := days_of_opens hvalue hopens
    exact ⟨today, settled, bucket, hdays, htoday, hbucket,
      Calendar.liesAfter_maturityDay hterm.2 htoday hbucket, Nat.succ_le_succ hterm.2⟩
  · rintro extra rfl
    obtain ⟨hextra, loan, today, settled, bucket, extended, hloan, hdays, htoday, hbucket,
      hextended, hahead⟩ := days_of_extendLoan hvalue
    have hafter : Calendar.LiesAfter extra.toNat bucket extended :=
      Calendar.liesAfter_of_dayText hbucket hextended (Calendar.add_days_div _ _)
    have hsome : (extra.toNat : Int) ≠ 0 := by
      have := hextra.1
      omega
    exact ⟨loan, today, settled, bucket, extended, hloan, hdays, htoday, hbucket, hafter,
      hafter.ne hsome, _, Int.sub_left_le_of_le_add hahead,
      Calendar.liesAfter_of_dayText htoday hextended (by omega)⟩
  · intro hadjusts
    obtain ⟨found, today, settled, foundBucket, hfound, hdays, hfoundEnd⟩ :=
      days_of_adjusts hvalue hadjusts
    rw [hfound.unique hloan, hend] at hfoundEnd
    cases hfoundEnd
    rw [hdays]
    rfl
  · rintro extra rfl
    obtain ⟨hextra, found, today, settled, foundBucket, extended, hfound, hdays, -, hfoundEnd,
      hextended, -⟩ := days_of_extendLoan hvalue
    obtain rfl := hfound.unique hloan
    rw [hend] at hfoundEnd
    cases hfoundEnd
    rw [hdays]
    exact ⟨rfl, extended, rfl, Calendar.maturityDay_add hterm.2 hextra.2 hmatures hend hextended⟩

/-- The loan on the sample ledger matures on the day that a loan for thirty days would have named a
month before, and is moved from there to the day that one for five days more would have. -/
theorem build_matures_openLedger : ∃ batch extended,
    ((openLedger 1701000000).run (sample.build (.extendLoan 5) (Octets.filled 32 7)
      1700000000)).1 = .ok (.ok batch) ∧
    batch.days[2]? = some "2023-11-26" ∧ batch.days[3]? = some extended ∧
    Calendar.maturityDay (1698321600 : Int64).toInt (30 + 5) = .ok extended := by
  obtain ⟨batch, hbatch⟩ : ∃ batch, ((openLedger 1701000000).run (sample.build (.extendLoan 5)
      (Octets.filled 32 7) 1700000000)).1 = .ok (.ok batch) :=
    exists_eq_ok_ok (by decide +kernel)
  have hread : (Read.openLoan sample.program (Octets.filled 32 7)).value?
      (openLedger 1701000000).accounts = some ⟨5000, 1000, 1701000000, 30⟩ := by decide +kernel
  obtain ⟨hrecord, hopen⟩ := Read.value?_openLoan_eq_some_iff.mp hread
  obtain ⟨-, -, hlater⟩ := build_matures sample (.extendLoan 5) (Octets.filled 32 7) 1700000000
    (openLedger 1701000000) batch hbatch
  obtain ⟨-, hextend⟩ := hlater 1698321600 30 "2023-11-26" _ ⟨by decide, by decide⟩
    (by decide +kernel) ⟨hrecord, hopen⟩ (by decide +kernel)
  obtain ⟨hbucket, extended, hextended, hmatures⟩ := hextend 5 rfl
  exact ⟨batch, extended, hbatch, hbucket, hextended, hmatures⟩

end Deployment

end LendingClient
