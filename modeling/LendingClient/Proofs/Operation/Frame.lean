import LendingClient.Client.Basic
import LendingClient.CommandLine.Run
import LendingClient.Proofs.Address.Records
import LendingClient.Proofs.CommandLine.Session
import LendingClient.Proofs.Operation.Breaking
import LendingClient.Proofs.Operation.Footprint
import LendingClient.Proofs.Operation.Reading
import LendingClient.Proofs.Run.Frame

/-!
# What a batch depends on

Building looks at the records of its operation, and at the mint that its amount is measured by, and
at nothing else that a ledger holds. Which accounts these are is known from the trace of a run. Main
statement: building comes to the same on any two ledgers that hold the same data there. The totals of
days are not among these accounts, so they need not exist. What the client prepares, and what a dry
run shows, is built just so.
-/

namespace LendingClient

open LendingClient.Action ScriptedLedger Address

/-- The records that an operation depends on, in the order in which they are read. -/
def Operation.places (owner : Key) : Operation → List Place
  | .setUp .. | .update _ => [.mainState]
  | .borrowMore _ | .extendLoan _ | .repay _ | .removeCollateral _ | .closePosition _
  | .flashClosePosition => [.mainState, .globalStats, .userLoan owner]
  | .start .. | .buy .. | .sell _ | .borrow .. | .leverage .. | .liquidate | .stake _
  | .unstake _ => [.mainState, .globalStats]

/-- No operation depends on the totals of a day. -/
theorem Operation.not_same_dailyStats {operation : Operation} {owner : Key} {place : Place}
    (h : place ∈ operation.places owner) {time : Int} (hcovers : Calendar.Covers time) :
    ¬ place.Same (.dailyStats time hcovers) := by
  cases place with
  | dailyStats => cases operation <;> simp [places] at h
  | _ => exact id

/-- The records of an operation are of different kinds. -/
theorem Operation.pairwise_places (operation : Operation) (owner : Key) :
    (operation.places owner).Pairwise fun place other => ¬ place.Same other := by
  cases operation <;> simp [places, Place.Same]

/-- What building looks at on a ledger. `read` are the accounts that it reads there, and `mint?` is
the mint that it reads at most. -/
structure Deployment.Footprint (deployment : Deployment) (operation : Operation) (owner : Key)
    (now : Int64) (ledger : ScriptedLedger) (mint? : Option Key) (read : List Key) : Prop where
  /-- Of the ledger, nothing is asked but these accounts. -/
  noted : ledger.HasRead (ledger.run (deployment.build operation owner now)).2 read
  /-- They are some of the records that the operation depends on, and the mint behind them. -/
  among : read.Sublist (deployment.records owner operation ++ mint?.toList)
  /-- The mint is the one that the amount is measured by. -/
  measured : ∀ mint ∈ mint?, deployment.MeasuredBy operation now ledger.accounts mint
  /-- Nothing is read twice. -/
  once : (∀ mint ∈ mint?, ∀ place : Place, ¬ place.LiesAt deployment.program mint) →
    read.Nodup ∨ Place.SomeCollide deployment.program (operation.places owner)
  /-- The totals of a day are not read. -/
  dayless : (∀ mint ∈ mint?, ∀ place : Place, ¬ place.LiesAt deployment.program mint) →
    ∀ time hcovers address,
      (Place.dailyStats time hcovers).LiesAt deployment.program address → address ∉ read ∨
        ∃ place ∈ operation.places owner, place.Collide deployment.program (.dailyStats time hcovers)
  /-- On another ledger that holds the same data there the result is the same, if the reads take the
  same time. -/
  paced : ∀ other, Paced ledger other → AgreeOn read ledger other →
    (other.run (deployment.build operation owner now)).1 =
      (ledger.run (deployment.build operation owner now)).1
  /-- However long the reads take, the batch is the same as long as none fails. So is everything else,
  unless several reads that are asked together will not do. -/
  unpaced : ∀ other, ledger.Answers → other.Answers → AgreeOn read ledger other →
    other.snapshot.fresh = ledger.snapshot.fresh →
      (other.run (deployment.build operation owner now)).1.map Except.toOption =
          (ledger.run (deployment.build operation owner now)).1.map Except.toOption ∧
        ((deployment.build operation owner now).run.Undisputed other →
          (other.run (deployment.build operation owner now)).1 =
            (ledger.run (deployment.build operation owner now)).1)

namespace Deployment

variable (deployment : Deployment) {operation : Operation} {owner : Key} {now : Int64}
  {ledger other : ScriptedLedger}

/-- The records that an operation depends on lie at its places, one by one. -/
private theorem liesAt_records (operation : Operation) (owner : Key) :
    List.Forall₂ (Place.LiesAt deployment.program) (operation.places owner)
      (deployment.records owner operation) := by
  have hmain := Place.liesAt_mainState deployment.program
  have hglobal := Place.liesAt_globalStats deployment.program
  have hloan := Place.liesAt_userLoan deployment.program owner
  cases operation with
  | setUp | update => exact .cons hmain .nil
  | borrowMore | extendLoan | repay | removeCollateral | closePosition | flashClosePosition =>
    exact .cons hmain (.cons hglobal (.cons hloan .nil))
  | _ => exact .cons hmain (.cons hglobal .nil)

/-- Building only looks at accounts, but that opening trading makes a pair of keys at its end. -/
theorem surveys_build (operation : Operation) (owner : Key) (now : Int64) :
    (deployment.build operation owner now).run.Surveys := by
  refine surveys_bind (asks_plan _) fun _ => ?_
  cases operation with
  | setUp => exact (deployment.confined_setUp ..).asks.surveys
  | update => exact (deployment.confined_update ..).asks.surveys
  | start =>
    refine surveys_bind (deployment.confined_market now).asks fun market => ?_
    dsimp only
    split
    · exact trivial
    · exact surveys_bind (market.confined_units _ _).asks fun units _ => trivial
  | buy amount referral =>
    cases referral with
    | none => exact (deployment.confined_buy ..).asks.surveys
    | some => exact (deployment.confined_buyWithReferral ..).asks.surveys
  | sell => exact (deployment.confined_sell ..).asks.surveys
  | borrow => exact (deployment.confined_openLoan .borrow ..).asks.surveys
  | borrowMore => exact (deployment.confined_adjustLoan .borrowMore ..).asks.surveys
  | leverage => exact (deployment.confined_openLoan .leverage ..).asks.surveys
  | extendLoan => exact (deployment.confined_extendLoan ..).asks.surveys
  | repay => exact (deployment.confined_adjustLoan .repay ..).asks.surveys
  | removeCollateral => exact (deployment.confined_adjustLoan .removeCollateral ..).asks.surveys
  | closePosition => exact (deployment.confined_adjustLoan .closePosition ..).asks.surveys
  | flashClosePosition => exact (deployment.confined_flashClose ..).asks.surveys
  | liquidate => exact (deployment.confined_liquidate ..).asks.surveys
  | stake => exact (deployment.confined_stake ..).asks.surveys
  | unstake => exact (deployment.confined_unstake ..).asks.surveys

section Delays

variable {deployment} (hother : other.Answers) (hsnapshot : other.snapshot = ledger.snapshot)
include hother hsnapshot

/-- A batch is built on every ledger with the same accounts that never fails to read one. -/
theorem play_build_eq_ok {batch : Batch}
    (h : (ledger.play (deployment.build operation owner now).run).1 = .ok (.ok batch)) :
    (other.play (deployment.build operation owner now).run).1 = .ok (.ok batch) := by
  refine deployment.play_build_of_valueOn hother ?_
  rw [hsnapshot]
  exact deployment.valueOn_build_of_play h

/-- Building breaks off on every ledger with the same accounts that never fails to read one. -/
theorem play_build_eq_error {why : Abort}
    (h : (ledger.play (deployment.build operation owner now).run).1 = .error why) :
    (other.play (deployment.build operation owner now).run).1 = .error why := by
  obtain ⟨days, market, loan, rfl, hvalid, hread, hunfit⟩ := deployment.exists_of_play_build h
  have hsettles : Settles ledger.snapshot (deployment.marketAndLoan owner now) :=
    (deployment.steady_marketAndLoan owner now).settles
  have hotherRead := hsettles.play_eq hsnapshot hother (hsettles.valueOn_eq rfl hread)
  rw [deployment.play_extendLoan hvalid hread hunfit] at h
  rw [deployment.play_extendLoan hvalid hotherRead hunfit, h]

end Delays

/-- Ledgers with the same accounts that never fail to read one come to the same batch, however long
their reads take. -/
theorem toOption_play_build (hledger : ledger.Answers) (hother : other.Answers)
    (hsnapshot : other.snapshot = ledger.snapshot) :
    (other.play (deployment.build operation owner now).run).1.map Except.toOption =
      (ledger.play (deployment.build operation owner now).run).1.map Except.toOption := by
  cases hresult : (ledger.play (deployment.build operation owner now).run).1 with
  | error why => rw [play_build_eq_error hother hsnapshot hresult]
  | ok ending =>
    cases ending with
    | ok batch => rw [play_build_eq_ok hother hsnapshot hresult]
    | error error =>
      cases hotherResult : (other.play (deployment.build operation owner now).run).1 with
      | error why =>
        rw [play_build_eq_error hledger hsnapshot.symm hotherResult] at hresult
        cases hresult
      | ok otherEnding =>
        cases otherEnding with
        | error otherError => rfl
        | ok batch =>
          rw [play_build_eq_ok hledger hsnapshot.symm hotherResult] at hresult
          cases hresult

private theorem exists_liesAt_of_mem_records {address : Key}
    (hmem : address ∈ deployment.records owner operation) :
    ∃ place ∈ operation.places owner, place.LiesAt deployment.program address :=
  Place.exists_liesAt_of_mem (deployment.liesAt_records operation owner) hmem

section Among

variable {deployment} {mint? : Option Key} {read : List Key}
  (hamong : read.Sublist (deployment.records owner operation ++ mint?.toList))
  (hmint : ∀ mint ∈ mint?, ∀ place : Place, ¬ place.LiesAt deployment.program mint)
include hamong hmint

/-- Records and a mint that lies elsewhere have different addresses, unless records collide. -/
theorem nodup_or_collide_of_among :
    read.Nodup ∨ Place.SomeCollide deployment.program (operation.places owner) := by
  refine (Place.nodup_or_collide (deployment.liesAt_records operation owner)
    (operation.pairwise_places owner)).imp_left fun hnodup => ?_
  refine hamong.nodup (List.nodup_append.mpr ⟨hnodup, mint?.toList_nodup, ?_⟩)
  rintro address hmem mint hmem' rfl
  obtain ⟨place, -, hlies⟩ := deployment.exists_liesAt_of_mem_records hmem
  exact hmint _ (Option.mem_toList.mp hmem') place hlies

/-- The totals of a day lie at none of these addresses, unless records collide. -/
theorem not_mem_or_collide_of_among {time : Int} {hcovers : Calendar.Covers time} {address : Key}
    (hlies : (Place.dailyStats time hcovers).LiesAt deployment.program address) :
    address ∉ read ∨ ∃ place ∈ operation.places owner,
      place.Collide deployment.program (.dailyStats time hcovers) := by
  refine or_iff_not_imp_left.mpr fun hmem => ?_
  rcases List.mem_append.mp (hamong.subset (not_not.mp hmem)) with hrecord | hmem'
  · obtain ⟨place, hplace, hliesAt⟩ := deployment.exists_liesAt_of_mem_records hrecord
    refine ⟨place, hplace, (hliesAt.same_or_collide hlies).resolve_left ?_⟩
    exact Operation.not_same_dailyStats hplace hcovers
  · exact absurd hlies (hmint _ (Option.mem_toList.mp hmem') _)

end Among

/-- What building looks at. -/
theorem exists_footprint (operation : Operation) (owner : Key) (now : Int64)
    (ledger : ScriptedLedger) :
    ∃ mint? read, deployment.Footprint operation owner now ledger mint? read := by
  have hsurveys := deployment.surveys_build operation owner now
  obtain ⟨mint?, hmeasured, read, hamong, hread⟩ :=
    deployment.onlyRead_build operation owner now ledger
  obtain ⟨noted, hnoted, hframe⟩ := hsurveys.exists_frame ledger
  -- what was noted tells which accounts were read
  obtain rfl : noted = read := hnoted.unique hread
  refine ⟨mint?, noted, hnoted, hamong, hmeasured, nodup_or_collide_of_among hamong,
    fun hmint _ _ _ => not_mem_or_collide_of_among hamong hmint, hframe,
    fun other hledger hother hagree hfresh => ?_⟩
  -- a ledger with the accounts of the one and the delays of the other
  let between : ScriptedLedger :=
    { other with script := { other.script with accountReads := ledger.script.accountReads } }
  have hanswers : between.Answers := hledger
  have hbetween : (between.run (deployment.build operation owner now)).1 =
      (ledger.run (deployment.build operation owner now)).1 :=
    hframe between ⟨rfl, hfresh⟩ hagree
  have hsnapshot : between.snapshot = other.snapshot := rfl
  rw [← hbetween]
  exact ⟨deployment.toOption_play_build hanswers hother hsnapshot.symm,
    fun hundisputed => (hsurveys.play_undisputed hother hanswers hsnapshot hundisputed).symm⟩

end Deployment

/-- The batch is built at the instant that the clock shows. -/
theorem Client.play_prepare (client : Client) (operation : Operation) (owner : Key)
    (ledger : ScriptedLedger) :
    ledger.play (client.prepare operation owner).run =
      ledger.play (client.deployment.build operation owner ledger.clock).run :=
  rfl

/-- What a dry run makes of a batch, or of why there is none. -/
def Invocation.shownBatch (result : Except Error Batch) : Except CommandFault String :=
  (result.map fun batch => batch.lines ++ "\n").mapError .client

/-- To perform an operation as a dry run is to build its batch and to show it. -/
theorem Invocation.play_perform (client : Client) (operation : Operation) (pair : KeyPair)
    (ledger : ScriptedLedger) :
    ledger.play (Session.ofAction (perform client true operation pair)).run =
      ((ledger.play (client.deployment.build operation pair.key ledger.clock).run).1.map shownBatch,
        (ledger.play (client.deployment.build operation pair.key ledger.clock).run).2) := by
  have hperform : perform client true operation pair =
      client.prepare operation pair.key >>= fun batch => pure (batch.lines ++ "\n") := by
    rw [perform, if_pos rfl]
  rw [hperform, Session.play_ofAction, play_map, client.play_prepare]
  cases (ledger.play (client.deployment.build operation pair.key ledger.clock).run).1 <;> rfl

/-- A command line ends before anything is asked, or does nothing but build the batch of an operation
at the instant that the clock shows. -/
def Invocation.OnlyBuilds (invocation : Invocation) (operation : Operation)
    (keys : Except CommandFault KeyPair) (ledger : ScriptedLedger) : Prop :=
  (∃ fault, ledger.play (invocation.run keys).run = (.ok (.error fault), ledger)) ∨
  ∃ settings pair, invocation.settings = .ok settings ∧ keys = .ok pair ∧
    ledger.play (invocation.run keys).run =
      ((ledger.run (settings.deployment.build operation pair.key ledger.clock)).1.map shownBatch,
        (ledger.run (settings.deployment.build operation pair.key ledger.clock)).2)

/-- A dry run only builds. -/
theorem Invocation.onlyBuilds_of_dryRun {invocation : Invocation} {operation : Operation}
    (hcommand : invocation.command = .ofProgram (.perform operation))
    (hdry : invocation.dryRun = true) (keys : Except CommandFault KeyPair)
    (ledger : ScriptedLedger) : invocation.OnlyBuilds operation keys ledger := by
  unfold OnlyBuilds run
  rw [hcommand, hdry]
  cases hsettings : invocation.settings with
  | error fault => exact .inl ⟨fault, rfl⟩
  | ok settings =>
    cases keys with
    | error fault => exact .inl ⟨fault, rfl⟩
    | ok pair =>
      refine .inr ⟨settings, pair, rfl, rfl, ?_⟩
      exact play_perform (Client.ofSettings settings) operation pair ledger

namespace Deployment

/-- Building only reads accounts: of the records those that the operation depends on, and the mint
that its amount is measured by. It reads none of them twice and no totals of a day, as long as that
mint does not lie where a record does and the digest tells the records apart. So two ledgers that hold
the same data there come to the same batch, or to none, however long their reads take, as long as none
fails. They come to the same result altogether if their reads take the same time, or if never more
than one of the reads that are asked together will not do. The client builds at the instant that the
clock shows, and a dry run of the command line does the same. -/
theorem build_footprint (deployment : Deployment) (operation : Operation) (owner : Key)
    (now : Int64) (ledger : ScriptedLedger) :
    (deployment.build operation owner now).run.Surveys ∧
    (∃ mint? read, deployment.Footprint operation owner now ledger mint? read) ∧
    (∀ client : Client, ledger.run (client.prepare operation owner) =
      ledger.run (client.deployment.build operation owner ledger.clock)) ∧
    ∀ (invocation : Invocation) (keys : Except CommandFault KeyPair),
      invocation.command = .ofProgram (.perform operation) → invocation.dryRun = true →
        invocation.OnlyBuilds operation keys ledger :=
  ⟨deployment.surveys_build operation owner now,
    deployment.exists_footprint operation owner now ledger,
    fun client => client.play_prepare operation owner ledger,
    fun _ keys hcommand hdry => Invocation.onlyBuilds_of_dryRun hcommand hdry keys ledger⟩

/-- A repayment comes to the same batch on the sample ledger whatever the mint of the base token
holds. -/
theorem build_footprint_openLedger : ∃ batch,
    ((openLedger 1701000000).run (sample.build (.repay "1.5") (Octets.filled 32 7)
      1700000000)).1 = .ok (.ok batch) ∧
    ∀ data, (((openLedger 1701000000).holding ((openLedger 1701000000).accounts.put
      (Octets.filled 32 6) data)).run (sample.build (.repay "1.5") (Octets.filled 32 7)
        1700000000)).1 = .ok (.ok batch) := by
  obtain ⟨batch, hbatch⟩ := exists_batch_repay
  obtain ⟨-, ⟨mint?, read, hfootprint⟩, -⟩ := build_footprint sample (.repay "1.5")
    (Octets.filled 32 7) 1700000000 (openLedger 1701000000)
  have hunread : Octets.filled 32 6 ∉ read := by
    intro hmem
    rcases List.mem_append.mp (hfootprint.among.subset hmem) with hrecord | hmint
    · exact absurd hrecord (by decide +kernel)
    · obtain ⟨-, asset, market, hasset, hmarket, hquote⟩ :=
        hfootprint.measured _ (Option.mem_toList.mp hmint)
      cases hasset
      have hread : (Read.mainState sample.program).value? (openLedger 1701000000).accounts =
          some MainState.sample := by decide +kernel
      have hconfig := (Read.value?_required_eq_some_iff.mpr hmarket.config).symm.trans hread
      have hkey : market.config.quoteToken = Octets.filled 32 6 := Except.ok.inj hquote
      rw [Option.some.inj hconfig] at hkey
      exact absurd hkey (by decide)
  refine ⟨batch, hbatch, fun data => ?_⟩
  rw [hfootprint.paced _ (paced_holding _ _) fun key hmem => ?_, hbatch]
  rw [accounts_holding]
  exact Accounts.get?_put_of_ne _ data fun hkey => hunread (hkey ▸ hmem)

end Deployment

/-- A ledger where the program's configuration holds no data, and the loan of a user is paid back. -/
def unfitLedger : ScriptedLedger where
  accounts := {
    entries := [
      ((Address.mainState Deployment.sample.program).1, []),
      ((Address.globalStats Deployment.sample.program).1, Record.encode GlobalStats.sample),
      ((Address.userLoan Deployment.sample.program (Octets.filled 32 7)).1,
        Record.encode (⟨5000, 0, 1701000000, 30⟩ : UserLoan))] }

/-- There every account of a repayment is found and no read fails, but a delay of the first read lets
the loan be rejected before the configuration: the error is another one on the same accounts. -/
theorem Deployment.build_disputed_unfitLedger :
    unfitLedger.Answers ∧ (unfitLedger.delayedBy [[5]]).Answers ∧
    (unfitLedger.delayedBy [[5]]).accounts = unfitLedger.accounts ∧
    (unfitLedger.delayedBy [[5]]).snapshot.fresh = unfitLedger.snapshot.fresh ∧
    ∃ error other,
      (unfitLedger.run (sample.build (.repay "1.5") (Octets.filled 32 7) 1700000000)).1 =
        .ok (.error error) ∧
      ((unfitLedger.delayedBy [[5]]).run (sample.build (.repay "1.5") (Octets.filled 32 7)
        1700000000)).1 = .ok (.error other) ∧
      error ≠ other := by
  exact ⟨answers_of_eq_nil _ (by simp only [unfitLedger]), answers_delayedBy _ _, rfl, rfl,
    .decode .mainState (Address.mainState sample.program).1 (.short 0),
    .notFound .userLoan (Address.userLoan sample.program (Octets.filled 32 7)).1,
    eq_ok_error_of_map (fun _ => ()) (by decide +kernel),
    eq_ok_error_of_map (fun _ => ()) (by decide +kernel), nofun⟩

end LendingClient
