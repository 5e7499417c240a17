import LendingClient.Proofs.Operation.Input
import LendingClient.Proofs.Operation.Settling

/-!
# The one way in which building breaks off

Building works with numbers from the accounts, which may be anything. Sums and products of them are
kept within 64 bits, but the rest of an extended term is a plain difference: if it does not fit,
building breaks off. There is no other way, since all other steps are guarded, the seeds of every
address keep within their limits, and the texts of a batch are short.
-/

namespace LendingClient

open LendingClient.Action ScriptedLedger

namespace Deployment

variable (deployment : Deployment) {snapshot : Snapshot} {ledger : ScriptedLedger}

/-- Extending a loan breaks off if the rest of its term does not fit 64 bits. -/
theorem play_extendLoan {days : UInt64} {owner : Key} {now : Int64} {market : Market}
    {loan : UserLoan} (hvalid : Operation.checkTerm days = .ok ())
    (hread : (ledger.play (deployment.marketAndLoan owner now).run).1 = .ok (.ok (market, loan)))
    (hfits : ¬ Calendar.fitsTimestamp (loan.termAfter days now)) :
    (ledger.play (deployment.build (.extendLoan days) owner now).run).1 = .error .termOverflow := by
  have hvalue := (deployment.steady_marketAndLoan owner now).settles.valueOn_eq rfl hread
  rw [← (valueOn_marketAndLoan_iff.mp hvalue).1.now] at hfits
  have hplan := market.run_extendLoanUsage owner (Operation.toNat_le_of_checkTerm hvalid) hfits
  have hbuild : ledger.play (deployment.build (.extendLoan days) owner now).run =
      ledger.play (deployment.extendLoan owner now days).run := play_ofInput_ok hvalid
  generalize hreading : ledger.play (deployment.marketAndLoan owner now).run = reading at hread
  obtain ⟨result, later⟩ := reading
  dsimp only at hread
  subst hread
  rw [hbuild, extendLoan, play_action_ok hreading]
  exact congrArg Prod.fst (play_plan_abort hplan)

/-- When the rest of the term of an extended loan does not fit, building stops at an error, or its
input is good and the state of the program and the loan are read. -/
theorem play_build_of_unfit {days : UInt64} {owner : Key} {now : Int64} {market : Market}
    {loan : UserLoan}
    (hvalue : valueOn ledger.snapshot (deployment.marketAndLoan owner now) = some (market, loan)) :
    (∃ error, (ledger.play (deployment.build (.extendLoan days) owner now).run).1 =
      .ok (.error error)) ∨
    Operation.checkTerm days = .ok () ∧
      (ledger.play (deployment.marketAndLoan owner now).run).1 = .ok (.ok (market, loan)) := by
  cases hvalid : Operation.checkTerm days with
  | error fault => exact .inl ⟨_, congrArg Prod.fst (play_ofInput_error hvalid)⟩
  | ok =>
    obtain ⟨ending, later, hplay, htruth, -⟩ :=
      (deployment.steady_marketAndLoan owner now).ends ledger rfl
    cases ending with
    | ok state =>
      obtain rfl : (market, loan) = state := Option.some.inj (hvalue.symm.trans htruth.eq_some)
      exact .inr ⟨rfl, congrArg Prod.fst hplay⟩
    | error error =>
      have hstop : ledger.play (deployment.build (.extendLoan days) owner now).run =
          (.ok (.error error), later) :=
        (play_ofInput_ok hvalid).trans (play_action_error hplay)
      exact .inl ⟨error, congrArg Prod.fst hstop⟩

variable {operation : Operation} {owner : Key} {now : Int64}

/-- Building breaks off only when a loan is extended whose rest of term does not fit 64 bits. -/
theorem exists_of_play_build {why : Abort}
    (h : (ledger.play (deployment.build operation owner now).run).1 = .error why) :
    ∃ days market loan, operation = .extendLoan days ∧ Operation.checkTerm days = .ok () ∧
      (ledger.play (deployment.marketAndLoan owner now).run).1 = .ok (.ok (market, loan)) ∧
      ¬ Calendar.fitsTimestamp (loan.termAfter days now) := by
  have hunfit : ¬ deployment.TermFits operation owner now ledger.snapshot := by
    intro hfits
    obtain ⟨ending, later, hplay, -⟩ := (deployment.settles_build hfits).ends ledger rfl
    rw [hplay] at h
    cases h
  unfold TermFits at hunfit
  push Not at hunfit
  obtain ⟨days, market, loan, rfl, hvalue, hterm⟩ := hunfit
  rcases deployment.play_build_of_unfit hvalue with ⟨error, herror⟩ | ⟨hvalid, hread⟩
  · rw [herror] at h
    cases h
  · exact ⟨days, market, loan, rfl, hvalid, hread, by simpa using hterm⟩

/-- When building comes to a batch, the rest of the term of a loan that it extends fits. -/
theorem termFits_of_play {batch : Batch}
    (h : (ledger.play (deployment.build operation owner now).run).1 = .ok (.ok batch)) :
    deployment.TermFits operation owner now ledger.snapshot := by
  rintro days market loan rfl hvalue
  by_contra hterm
  rcases deployment.play_build_of_unfit hvalue with ⟨error, herror⟩ | ⟨hvalid, hread⟩
  · rw [herror] at h
    cases h
  · rw [deployment.play_extendLoan hvalid hread hterm] at h
    cases h

/-- When building comes to a batch on a snapshot, the rest of the term of a loan that it extends
fits. -/
theorem termFits_of_valueOn {batch : Batch}
    (h : valueOn snapshot (deployment.build operation owner now) = some batch) :
    deployment.TermFits operation owner now snapshot := by
  rintro days market loan rfl hvalue
  by_contra hterm
  obtain ⟨_, hvalid, hbatch⟩ := valueOn_bind_iff.mp h
  rw [valueOn_ofInput_iff] at hvalid
  obtain ⟨found, foundLoan, hstate, usage, husage, -⟩ := valueOn_extendLoan_iff.mp hbatch
  have hfound : valueOn snapshot (deployment.marketAndLoan owner now) = some (found, foundLoan) :=
    valueOn_marketAndLoan_iff.mpr hstate
  cases hvalue.symm.trans hfound
  rw [← (valueOn_marketAndLoan_iff.mp hvalue).1.now] at hterm
  have hplan := market.run_extendLoanUsage owner (Operation.toNat_le_of_checkTerm hvalid) hterm
  rw [Plan.value?, hplan] at husage
  cases husage

/-- A batch that building comes to is the one that it has on the snapshot. -/
theorem valueOn_build_of_play {batch : Batch}
    (h : (ledger.play (deployment.build operation owner now).run).1 = .ok (.ok batch)) :
    valueOn ledger.snapshot (deployment.build operation owner now) = some batch :=
  (deployment.settles_build (deployment.termFits_of_play h)).valueOn_eq rfl h

/-- Building comes to the batch that it has on the snapshot, or else to an error that the ledger had
in store. -/
theorem play_build_or {batch : Batch}
    (h : valueOn ledger.snapshot (deployment.build operation owner now) = some batch) :
    (ledger.play (deployment.build operation owner now).run).1 = .ok (.ok batch) ∨
      ∃ error, ledger.MayFail error ∧
        (ledger.play (deployment.build operation owner now).run).1 = .ok (.error error) :=
  (deployment.settles_build (deployment.termFits_of_valueOn h)).play_eq_or rfl h

/-- Building comes to the batch that it has on the snapshot if the ledger never fails to read an
account. -/
theorem play_build_of_valueOn {batch : Batch} (hanswers : ledger.Answers)
    (h : valueOn ledger.snapshot (deployment.build operation owner now) = some batch) :
    (ledger.play (deployment.build operation owner now).run).1 = .ok (.ok batch) :=
  (deployment.settles_build (deployment.termFits_of_valueOn h)).play_eq rfl hanswers h

end Deployment

/-- A program on a ledger, with the decimal places left to the mints. -/
def Deployment.sample : Deployment where
  program := Octets.filled 32 8

/-- The program's configuration, with fees of one, two and three percent. -/
def MainState.sample : MainState where
  admin := Octets.filled 32 1
  feeReceiver := Octets.filled 32 2
  buyFee := 100
  sellFee := 200
  leverageFee := 300
  quoteToken := Octets.filled 32 3
  stakeToken := Octets.filled 32 4
  stakeVaultProgram := Octets.filled 32 5
  stakeEnabled := true
  started := true

/-- The program's counters while trading is open. -/
def GlobalStats.sample : GlobalStats where
  lastLiquidationDate := 1699900000
  totalBorrowed := 0
  totalCollateral := 0
  totalQuoteStaked := 0
  tokenSupply := 1000000
  lastPrice := 1
  baseToken := Octets.filled 32 6
  started := true

/-- The data of a mint that nobody can freeze. -/
def Mint.dataOf (decimals : UInt8) : Bytes :=
  List.replicate 44 0 ++ decimals :: 1 :: List.replicate 36 0

/-- A ledger on which trading is open, and on which a user has a loan that matures at an instant. -/
def openLedger (endDate : Int64) : ScriptedLedger where
  accounts := {
    entries := [
      ((Address.mainState Deployment.sample.program).1, Record.encode MainState.sample),
      ((Address.globalStats Deployment.sample.program).1, Record.encode GlobalStats.sample),
      ((Address.userLoan Deployment.sample.program (Octets.filled 32 7)).1,
        Record.encode (⟨5000, 1000, endDate, 30⟩ : UserLoan)),
      (Octets.filled 32 3, Mint.dataOf 6),
      (Octets.filled 32 6, Mint.dataOf 9)] }

/-- The sample ledger never fails to read an account. -/
theorem answers_openLedger (endDate : Int64) : (openLedger endDate).Answers :=
  answers_of_eq_nil _ (by simp only [openLedger])

/-- There, paying back some of the loan comes to a batch. -/
theorem exists_batch_repay :
    ∃ batch, ((openLedger 1701000000).run (Deployment.sample.build (.repay "1.5")
      (Octets.filled 32 7) 1700000000)).1 = .ok (.ok batch) := by
  exact exists_eq_ok_ok (by decide +kernel)

/-- The texts that the batch of an operation carries. -/
def Operation.texts : Operation → List String
  | .start _ name symbol uri => [name, symbol, uri]
  | _ => []

/-- The texts of an operation whose input is good are so short that four bytes hold their lengths. -/
theorem Operation.length_texts_lt {operation : Operation} (h : operation.validate = .ok ())
    {text : String} (hmem : text ∈ operation.texts) :
    (Text.utf8 text).length < UInt32.size := by
  have hlimit (field : TokenField) : field.limit < UInt32.size := by cases field <;> decide
  have hshort {field : TokenField} {text : String} (hcheck : checkText field text = .ok ()) :
      (Text.utf8 text).length < UInt32.size := by
    rw [Text.length_utf8]
    exact Nat.lt_of_le_of_lt (checkText_eq_ok_iff.mp hcheck).2 (hlimit field)
  cases operation with
  | start amount name symbol uri =>
    obtain ⟨_, -, hrest⟩ := bind_eq_ok_iff.mp h
    obtain ⟨_, hname, hrest⟩ := bind_eq_ok_iff.mp hrest
    obtain ⟨_, hsymbol, huri⟩ := bind_eq_ok_iff.mp hrest
    rcases List.mem_cons.mp hmem with rfl | hmem
    · exact hshort hname
    · rcases List.mem_cons.mp hmem with rfl | hmem
      · exact hshort hsymbol
      · rw [List.mem_singleton.mp hmem]
        exact hshort huri
  | _ => cases hmem

namespace Deployment

/-- Building breaks off in exactly one case: a loan is to run longer, its input is good, the state of
the program and the loan are read, and what is left of the term after the extension does not fit 64
bits. The seeds of all addresses are within the limits, and the texts of a batch are so short that
their lengths can be written. -/
theorem build_breaksOff_iff (deployment : Deployment) (operation : Operation) (owner : Key)
    (now : Int64) (ledger : ScriptedLedger) :
    (∀ why, (ledger.run (deployment.build operation owner now)).1 = .error why ↔
      why = .termOverflow ∧ ∃ days market loan, operation = .extendLoan days ∧
        Operation.checkTerm days = .ok () ∧
        (ledger.run (deployment.marketAndLoan owner now)).1 = .ok (.ok (market, loan)) ∧
        ¬ Calendar.fitsTimestamp (loan.termAfter days now)) ∧
    (∀ program user mint tokenProgram,
      Address.DerivedWithin program user mint tokenProgram) ∧
    (operation.validate = .ok () →
      ∀ text ∈ operation.texts, (Text.utf8 text).length < UInt32.size) := by
  refine ⟨fun why => ⟨fun hbuild => ?_, ?_⟩, Address.derivedWithin, fun hvalid text hmem => ?_⟩
  · obtain ⟨days, market, loan, rfl, hvalid, hread, hterm⟩ := deployment.exists_of_play_build hbuild
    have hbroken := deployment.play_extendLoan hvalid hread hterm
    obtain rfl : why = .termOverflow := Except.error.inj (hbuild.symm.trans hbroken)
    exact ⟨rfl, days, market, loan, rfl, hvalid, hread, hterm⟩
  · rintro ⟨rfl, days, market, loan, rfl, hvalid, hread, hterm⟩
    exact deployment.play_extendLoan hvalid hread hterm
  · exact Operation.length_texts_lt hvalid hmem

end Deployment

/-- A loan that matured at the earliest instant of all makes building break off. -/
theorem Deployment.build_breaksOff_openLedger :
    ((openLedger Int64.minValue).run
      (Deployment.sample.build (.extendLoan 1) (Octets.filled 32 7) 1700000000)).1 =
        .error .termOverflow := by
  have hresult : ((openLedger Int64.minValue).run (Deployment.sample.build (.extendLoan 1)
      (Octets.filled 32 7) 1700000000)).1.map (fun _ => ()) = .error .termOverflow := by
    decide +kernel
  generalize ((openLedger Int64.minValue).run _).1 = result at hresult ⊢
  cases result with
  | ok ending => cases hresult
  | error why =>
    cases hresult
    rfl

end LendingClient
