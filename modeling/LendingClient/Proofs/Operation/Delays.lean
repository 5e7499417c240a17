import LendingClient.Proofs.Operation.Breaking
import LendingClient.Proofs.Operation.Reading
import LendingClient.Proofs.Run.Retiming

/-!
# Delays while a loan is looked up

An operation on a loan that is there already reads the configuration, the counters and the loan at
once. Main statement: the delays of these reads change nothing about the batch. They can change which
error building ends with if more than one of the reads will not do, and how many of the reads are
started if at least one will not.
-/

namespace LendingClient

open LendingClient.Action ScriptedLedger

/-- The operations on a loan that is there already. -/
def Operation.OnLoan : Operation → Prop
  | .borrowMore _ | .repay _ | .removeCollateral _ | .closePosition _ | .flashClosePosition
  | .extendLoan _ => True
  | _ => False

section Asks

variable {α β γ : Type} (read : Read α) (a : Read α) (b : Read β) (c : Read γ)

private theorem Read.address_query : read.query.address = read.address :=
  rfl

private theorem Read.asks_perform : read.perform.run.Asks Call.IsRead :=
  asks_bind ⟨trivial, fun _ => trivial⟩ fun _ => asks_plan _

/-- Three reads at once are worked out without another call. -/
theorem Read.opens_allThree : (allThree a b c).Opens [a.query, b.query, c.query] := by
  refine ⟨_, rfl, fun data => ?_⟩
  refine asks_bind (asks_plan _) fun first => ?_
  refine asks_bind (asks_plan _) fun second => ?_
  exact asks_bind (asks_plan _) fun third => trivial

variable (market : Market)

private theorem Market.asks_decimals (asset : Asset) :
    (market.decimals asset).run.Asks Call.IsRead := by
  unfold decimals
  cases market.deployment.scales with
  | some scales => exact trivial
  | none => exact asks_bind (asks_plan _) fun mint => (Read.decimals mint).asks_perform

private theorem Market.asks_units (asset : Asset) (input : String) :
    (market.units asset input).run.Asks Call.IsRead :=
  asks_bind (market.asks_decimals asset) fun _ => asks_plan _

end Asks

namespace Deployment

variable (deployment : Deployment) {operation : Operation} {owner : Key} {now : Int64}
  {ledger other : ScriptedLedger}

/-- What an operation on a loan asks for at once. -/
def loanQueries (owner : Key) : List Query :=
  [(Read.mainState deployment.program).query, (Read.globalStats deployment.program).query,
    (Read.openLoan deployment.program owner).query]

/-- What an operation on a loan asks for at once are the records that it depends on. -/
private theorem address_loanQueries (hloan : operation.OnLoan) :
    (deployment.loanQueries owner).map (·.address) = deployment.records owner operation := by
  have hrecords : deployment.records owner operation =
      [(Address.mainState deployment.program).1, (Address.globalStats deployment.program).1,
        (Address.userLoan deployment.program owner).1] := by
    cases operation with
    | borrowMore | repay | removeCollateral | closePosition | flashClosePosition | extendLoan => rfl
    | _ => exact hloan.elim
  rw [hrecords, loanQueries, List.map_cons, List.map_cons, List.map_cons, List.map_nil,
    Read.address_query, Read.address_query, Read.address_query, Read.address_mainState,
    Read.address_globalStats, Read.address_openLoan]

private theorem opens_marketAndLoan (owner : Key) (now : Int64) :
    (deployment.marketAndLoan owner now).Opens (deployment.loanQueries owner) :=
  (Read.opens_allThree _ _ _).bind fun _ => trivial

private theorem opens_adjustLoan (kind : InstructionKind) (owner : Key) (now : Int64) (asset : Asset)
    (amount : String) :
    (deployment.adjustLoan kind owner now asset amount).Opens (deployment.loanQueries owner) := by
  refine (deployment.opens_marketAndLoan owner now).bind fun state => ?_
  refine asks_bind (state.1.asks_units _ _) fun units => ?_
  exact asks_bind (asks_plan _) fun usage => trivial

private theorem opens_flashClose (owner : Key) (now : Int64) :
    (deployment.flashClose owner now).Opens (deployment.loanQueries owner) := by
  refine (deployment.opens_marketAndLoan owner now).bind fun state => ?_
  exact asks_bind (asks_plan _) fun usage => trivial

private theorem opens_extendLoan (owner : Key) (now : Int64) (days : UInt64) :
    (deployment.extendLoan owner now days).Opens (deployment.loanQueries owner) := by
  refine (deployment.opens_marketAndLoan owner now).bind fun state => ?_
  exact asks_bind (asks_plan _) fun usage => trivial

/-- Once its input is checked, an operation on a loan opens with the three reads. -/
theorem exists_opens_build (hloan : operation.OnLoan) (owner : Key) (now : Int64) :
    ∃ action : Action Batch, action.Opens (deployment.loanQueries owner) ∧
      deployment.build operation owner now =
        liftM (Plan.ofInput operation.validate) >>= fun _ => action := by
  cases operation with
  | borrowMore | repay | removeCollateral | closePosition =>
    exact ⟨_, deployment.opens_adjustLoan _ owner now _ _, rfl⟩
  | flashClosePosition => exact ⟨_, deployment.opens_flashClose owner now, rfl⟩
  | extendLoan days => exact ⟨_, deployment.opens_extendLoan owner now days, rfl⟩
  | _ => exact hloan.elim

/-- If the input is good, but one of the three reads will not do, building ends with the error of such
a read, and has read the first of the records only. -/
theorem exists_error_build (now : Int64) (hloan : operation.OnLoan)
    (hvalid : operation.validate = .ok ())
    (h : ledger.faults (deployment.loanQueries owner) ≠ []) :
    ∃ error ∈ ledger.faults (deployment.loanQueries owner),
      (ledger.play (deployment.build operation owner now).run).1 = .ok (.error error) ∧
      ∃ read, read <+: deployment.records owner operation ∧
        HasRead ledger (ledger.play (deployment.build operation owner now).run).2 read := by
  obtain ⟨action, hopens, hbuild⟩ := deployment.exists_opens_build hloan owner now
  rw [hbuild, play_ofInput_ok hvalid, ← deployment.address_loanQueries hloan]
  exact hopens.exists_error h

/-- The delays of reads change nothing about the batch of an operation on a loan: building comes to it
under all of them or under none. They do not change anything else either while the configuration, the
counters and the loan will all do. If one of these will not, the error is its error, and only how many
of the three reads are started may change. If more of them will not do, the error may be that of
another one. -/
theorem build_delayed (deployment : Deployment) (operation : Operation) (owner : Key) (now : Int64)
    (ledger other : ScriptedLedger) (hloan : operation.OnLoan) (h : Retimed ledger other) :
    AlikeBut (ledger.faults (deployment.loanQueries owner)) (deployment.records owner operation)
      ledger other (ledger.run (deployment.build operation owner now))
      (other.run (deployment.build operation owner now)) := by
  obtain ⟨action, hopens, hbuild⟩ := deployment.exists_opens_build hloan owner now
  change AlikeBut _ _ ledger other (ledger.play _) (other.play _)
  rw [hbuild, ← deployment.address_loanQueries hloan]
  cases hvalid : operation.validate with
  | error fault =>
    rw [play_ofInput_error rfl, play_ofInput_error rfl]
    exact .refl _
  | ok =>
    rw [play_ofInput_ok rfl, play_ofInput_ok rfl]
    exact hopens.alikeBut h

end Deployment

/-- A repayment comes to the same batch on the sample ledger without delays and where the first read
takes longest and the third one is there at once. -/
theorem Deployment.build_delayed_openLedger :
    ∃ batch, ((openLedger 1701000000).run (sample.build (.repay "1.5") (Octets.filled 32 7)
        1700000000)).1 = .ok (.ok batch) ∧
      (((openLedger 1701000000).delayedBy [[7, 2], [3], [], [4]]).run
        (sample.build (.repay "1.5") (Octets.filled 32 7) 1700000000)).1 = .ok (.ok batch) := by
  obtain ⟨batch, hbatch⟩ := exists_batch_repay
  have hretimed : Retimed (openLedger 1701000000)
      ((openLedger 1701000000).delayedBy [[7, 2], [3], [], [4]]) :=
    retimed_of_answers rfl (answers_openLedger _) (answers_delayedBy _ _)
  have halike := build_delayed sample (.repay "1.5") (Octets.filled 32 7) 1700000000
    (openLedger 1701000000) _ trivial hretimed
  exact ⟨batch, hbatch, (halike.value batch).mpr hbatch⟩

/-- A ledger on which a user has a loan, but the program's configuration is missing. -/
def unconfiguredLedger : ScriptedLedger where
  accounts := {
    entries := [
      ((Address.globalStats Deployment.sample.program).1, Record.encode GlobalStats.sample),
      ((Address.userLoan Deployment.sample.program (Octets.filled 32 7)).1,
        Record.encode (⟨5000, 1000, 1701000000, 30⟩ : UserLoan))] }

private theorem answers_unconfiguredLedger : unconfiguredLedger.Answers :=
  answers_of_eq_nil _ (by simp only [unconfiguredLedger])

/-- There only one read will not do, but a delay of it lets the other two be started: what is read
depends on the delays. -/
theorem Deployment.build_started_unconfiguredLedger :
    Retimed unconfiguredLedger (unconfiguredLedger.delayedBy [[5]]) ∧
    (unconfiguredLedger.faults (sample.loanQueries (Octets.filled 32 7))).length = 1 ∧
    HasRead unconfiguredLedger
      (unconfiguredLedger.run (sample.build (.repay "1.5") (Octets.filled 32 7) 1700000000)).2
      [(Address.mainState sample.program).1] ∧
    HasRead (unconfiguredLedger.delayedBy [[5]])
      ((unconfiguredLedger.delayedBy [[5]]).run
        (sample.build (.repay "1.5") (Octets.filled 32 7) 1700000000)).2
      [(Address.mainState sample.program).1, (Address.globalStats sample.program).1,
        (Address.userLoan sample.program (Octets.filled 32 7)).1] := by
  have hretimed : Retimed unconfiguredLedger (unconfiguredLedger.delayedBy [[5]]) :=
    retimed_of_answers rfl answers_unconfiguredLedger (answers_delayedBy _ _)
  obtain ⟨hone, hshort, hlong⟩ :
      (unconfiguredLedger.faults (sample.loanQueries (Octets.filled 32 7))).length = 1 ∧
      (unconfiguredLedger.run (sample.build (.repay "1.5") (Octets.filled 32 7)
        1700000000)).2.calls.length = 1 ∧
      ((unconfiguredLedger.delayedBy [[5]]).run (sample.build (.repay "1.5") (Octets.filled 32 7)
        1700000000)).2.calls.length = 3 := by
    decide +kernel
  -- what is read are the first of the records, so it is enough to count the reads
  have hread (ledger : ScriptedLedger) (hnew : ledger.calls = []) (count : Nat)
      (hfaults : (ledger.faults (sample.loanQueries (Octets.filled 32 7))).length = 1)
      (hcount : (ledger.run (sample.build (.repay "1.5") (Octets.filled 32 7)
        1700000000)).2.calls.length = count) :
      HasRead ledger
        (ledger.run (sample.build (.repay "1.5") (Octets.filled 32 7) 1700000000)).2
        ((sample.records (Octets.filled 32 7) (.repay "1.5")).take count) := by
    have hsome : ledger.faults (sample.loanQueries (Octets.filled 32 7)) ≠ [] := by
      intro hnil
      rw [hnil] at hfaults
      cases hfaults
    have hloan : (Operation.repay "1.5").OnLoan := trivial
    obtain ⟨-, -, -, read, hprefix, hread⟩ :=
      sample.exists_error_build 1700000000 hloan (by decide) hsome
    have hlength := hread.length_calls
    rw [hnew, List.length_nil, Nat.add_zero] at hlength
    rw [← hcount]
    change HasRead ledger (ledger.play _).2 (List.take (ledger.play _).2.calls.length _)
    rw [hlength, ← List.prefix_iff_eq_take.mp hprefix]
    exact hread
  have honeDelayed : ((unconfiguredLedger.delayedBy [[5]]).faults
      (sample.loanQueries (Octets.filled 32 7))).length = 1 := by
    rw [faults, hretimed.outcomes]
    exact hone
  exact ⟨hretimed, hone, hread unconfiguredLedger rfl 1 hone hshort,
    hread (unconfiguredLedger.delayedBy [[5]]) rfl 3 honeDelayed hlong⟩

end LendingClient
