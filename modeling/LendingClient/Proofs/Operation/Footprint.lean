import LendingClient.Operation.Build
import LendingClient.Proofs.Except
import LendingClient.Proofs.Run.Confined
import LendingClient.Proofs.Transaction.Signing

/-!
# What building asks

Building a batch only reads accounts, and makes the key of a new mint. Nothing is handed in, the
ledger is asked for nothing else, and nothing is raced against a wish to cancel. An error is one
that the client finds out itself, or else the answer to one of those reads. The batch is for the
program's instruction of the operation, and nobody but the payer signs it unless a mint is made; the
mint's key signs it then.
-/

namespace LendingClient

/-- The calls that building may make. -/
def Call.Builds : Call → Prop
  | .account _ | .accounts _ | .freshKey => True
  | _ => False

/-- Looking at accounts is part of building. -/
theorem Call.Looks.builds {call : Call} (h : call.Looks) : call.Builds := by
  cases call with
  | account | accounts => trivial
  | _ => exact h.elim

/-- An error that was worked out is the client's own. -/
def Plan.Own {α : Type} (plan : Plan α) : Prop :=
  ∀ error, plan.run = .ok (.error error) → error.IsOwn

namespace Plan

variable {α β : Type}

/-- A value is no error. -/
theorem own_pure (value : α) : (pure value : Plan α).Own :=
  fun _ h => nomatch h

/-- To break off is no error. -/
theorem own_ofAbort (value : Except Abort α) : (ofAbort value).Own := by
  intro error h
  cases value <;> cases h

/-- A result has no error but its own. -/
theorem own_ofExcept {value : Except Error α} (h : ∀ error, value = .error error → error.IsOwn) :
    (ofExcept value).Own :=
  fun error herror => h error (Except.ok.inj herror)

/-- A fault of the input is the client's own error. -/
theorem own_ofInput (value : Except InputFault α) : (ofInput value).Own := by
  intro error h
  cases value <;> cases h
  trivial

/-- A plan that fails with one of the client's own errors has no other. -/
theorem own_throw {error : Error} (h : error.IsOwn) : (throw error : Plan α).Own := by
  intro other hother
  cases hother
  exact h

/-- The errors of two plans are the client's own whichever of them is chosen. -/
theorem own_ite {condition : Prop} [Decidable condition] {plan other : Plan α} (hplan : plan.Own)
    (hother : other.Own) : (if condition then plan else other).Own := by
  split
  · exact hplan
  · exact hother

/-- One plan after another has no errors but the client's own if neither of them does. -/
theorem own_bind {plan : Plan α} {f : α → Plan β} (hplan : plan.Own) (hf : ∀ value, (f value).Own) :
    (plan >>= f).Own := by
  intro error h
  have hrun : (plan >>= f).run = plan.run >>= fun result => ExceptT.bindCont f result := rfl
  rw [hrun] at h
  obtain ⟨result, hresult, hrest⟩ := bind_eq_ok_iff.mp h
  cases result with
  | ok value => exact hf value error hrest
  | error other =>
    cases hrest
    exact hplan error hresult

end Plan

private theorem Calendar.isOwn_of_dayText {time : Int} {error : Error}
    (h : dayText time = .error error) : error.IsOwn := by
  unfold dayText dateOf midnight at h
  split at h <;> cases h
  trivial

private theorem Calendar.isOwn_of_maturityDay {time : Int} {days : UInt64} {error : Error}
    (h : maturityDay time days = .error error) : error.IsOwn := by
  unfold maturityDay dayTextAfter at h
  dsimp only at h
  split at h
  · exact isOwn_of_dayText h
  · cases h
    trivial

namespace Read

variable {α β γ : Type}

/-- What a read finds wrong with an account is the client's own error. -/
def Own (read : Read α) : Prop :=
  ∀ data error, read.interpret data = .error error → error.IsOwn

/-- That data cannot be decoded is the client's own error. -/
private theorem isOwn_of_decode [Record α] {address : Key} {data : Bytes} {error : Error}
    (h : Record.decode α address data = .error error) : error.IsOwn := by
  unfold Record.decode at h
  cases hread : Record.read? α data <;> rw [hread] at h <;> cases h
  trivial

/-- What is wrong with the record of an account that may be missing is the client's own error. -/
theorem own_optional [Record α] (address : Key) : (optional α address).Own := by
  intro data error h
  cases data with
  | none => cases h
  | some data =>
    change (Record.decode α address data).map some = .error error at h
    cases hdecode : Record.decode α address data <;> rw [hdecode] at h <;> cases h
    exact isOwn_of_decode hdecode

/-- What is wrong with an account that has to be there is the client's own error. -/
theorem own_required [Record α] (address : Key) : (required α address).Own := by
  intro data error h
  cases data with
  | none =>
    cases h
    trivial
  | some data => exact isOwn_of_decode h

/-- What is wrong with the loan of a user is the client's own error. -/
theorem own_openLoan (program owner : Key) : (openLoan program owner).Own := by
  intro data error h
  change ((required UserLoan _).interpret data >>= _) = .error error at h
  cases hloan : (required UserLoan (Address.userLoan program owner).1).interpret data with
  | error other =>
    rw [hloan] at h
    cases h
    exact own_required _ _ _ hloan
  | ok loan =>
    rw [hloan] at h
    change (if loan.isOpen then _ else _) = _ at h
    split at h <;> cases h
    trivial

/-- What is wrong with a mint is the client's own error. -/
theorem own_decimals (mint : Key) : (decimals mint).Own := by
  intro data error h
  cases data with
  | none =>
    cases h
    trivial
  | some data =>
    change ((Mint.decode mint data).map _) = .error error at h
    unfold Mint.decode at h
    cases hread : Mint.read data <;> rw [hread] at h <;> cases h
    trivial

end Read

open LendingClient.Action

/-- A plan whose error is the client's own is confined, whatever is allowed. -/
theorem Plan.Own.confined {α : Type} {allowed : Call → Prop} {plan : Plan α} (hplan : plan.Own) :
    Confined allowed (fun _ => True) (liftM plan : Action α) :=
  .plan (fun _ _ => trivial) hplan

/-- A check of the input makes no call. -/
theorem confined_ofInput {α : Type} {allowed : Call → Prop} (value : Except InputFault α) :
    Confined allowed (fun _ => True) (liftM (Plan.ofInput value) : Action α) :=
  (Plan.own_ofInput value).confined

/-- A read asks for its account. -/
theorem Read.Own.perform {α : Type} {read : Read α} (hread : read.Own) :
    Confined Call.Looks (fun _ => True) read.perform :=
  .bind (.account trivial) fun data => (Plan.own_ofExcept (hread data)).confined

/-- Two reads at once only look at accounts, and have no other errors than the reads. -/
theorem Read.Own.both {α β : Type} {a : Read α} {b : Read β} (ha : a.Own) (hb : b.Own) :
    Confined Call.Looks (fun _ => True) (Read.both a b) := by
  refine .bind (.accounts trivial) fun data => ?_
  refine .bind (Plan.own_ofExcept (ha _)).confined fun first => ?_
  exact .bind (Plan.own_ofExcept (hb _)).confined fun second => .pure trivial

/-- Three reads at once only look at accounts, and have no other errors than the reads. -/
theorem Read.Own.allThree {α β γ : Type} {a : Read α} {b : Read β} {c : Read γ} (ha : a.Own)
    (hb : b.Own) (hc : c.Own) : Confined Call.Looks (fun _ => True) (Read.allThree a b c) := by
  refine .bind (.accounts trivial) fun data => ?_
  refine .bind (Plan.own_ofExcept (ha _)).confined fun first => ?_
  refine .bind (Plan.own_ofExcept (hb _)).confined fun second => ?_
  exact .bind (Plan.own_ofExcept (hc _)).confined fun third => .pure trivial

namespace Market

variable (market : Market)

/-- To find the units of an amount, the ledger is only asked for an account. -/
theorem confined_units (asset : Asset) (input : String) :
    Confined Call.Looks (fun _ => True) (market.units asset input) := by
  have hdecimals : Confined Call.Looks (fun _ => True) (market.decimals asset) := by
    unfold decimals
    cases market.deployment.scales with
    | some scales => exact .pure trivial
    | none => exact .bind (confined_ofInput _) fun mint => (Read.own_decimals mint).perform
  exact hdecimals.bind fun decimals => confined_ofInput _

private theorem own_dayAccount (day : String) : (market.dayAccount day).Own :=
  Plan.own_bind (Plan.own_ofAbort _) fun _ => Plan.own_pure _

private theorem own_dayText (time : Int) : (Plan.ofExcept (Calendar.dayText time)).Own :=
  Plan.own_ofExcept fun _ => Calendar.isOwn_of_dayText

private theorem own_commonUsage (owner : Key) : (market.commonUsage owner).Own := by
  refine Plan.own_bind (Plan.own_ofInput _) fun mint => ?_
  refine Plan.own_bind (own_dayText _) fun today => ?_
  refine Plan.own_bind (own_dayText _) fun settled => ?_
  refine Plan.own_bind (market.own_dayAccount _) fun todayAccount => ?_
  exact Plan.own_bind (market.own_dayAccount _) fun settledAccount => Plan.own_pure _

private theorem own_openLoanUsage (owner : Key) (days : UInt64) :
    (market.openLoanUsage owner days).Own := by
  refine Plan.own_bind (market.own_commonUsage owner) fun common => ?_
  refine Plan.own_bind (Plan.own_ofExcept fun _ => Calendar.isOwn_of_maturityDay) fun endDay => ?_
  exact Plan.own_bind (market.own_dayAccount _) fun endAccount => Plan.own_pure _

private theorem own_adjustLoanUsage (owner : Key) (loan : UserLoan) :
    (market.adjustLoanUsage owner loan).Own := by
  refine Plan.own_bind (market.own_commonUsage owner) fun common => ?_
  refine Plan.own_bind (own_dayText _) fun endDay => ?_
  exact Plan.own_bind (market.own_dayAccount _) fun endAccount => Plan.own_pure _

private theorem own_extendedEnd (loan : UserLoan) (days : UInt64) :
    (market.extendedEnd loan days).Own := by
  have hlimit (newEnd remaining : Int) :
      (if (longestTerm : Int) < remaining then throw (.input (.extendedTooFar remaining))
        else pure newEnd : Plan Int).Own :=
    Plan.own_ite (Plan.own_throw trivial) (Plan.own_pure _)
  unfold extendedEnd
  exact Plan.own_ite (Plan.own_throw trivial)
    (Plan.own_ite (Plan.own_bind (Plan.own_ofAbort _) fun _ => hlimit _ _) (hlimit _ _))

private theorem own_extendLoanUsage (owner : Key) (loan : UserLoan) (days : UInt64) :
    (market.extendLoanUsage owner loan days).Own := by
  refine Plan.own_bind (market.own_extendedEnd loan days) fun newEnd => ?_
  refine Plan.own_bind (market.own_commonUsage owner) fun common => ?_
  refine Plan.own_bind (own_dayText _) fun oldDay => ?_
  refine Plan.own_bind (own_dayText _) fun newDay => ?_
  refine Plan.own_bind (market.own_dayAccount _) fun oldAccount => ?_
  exact Plan.own_bind (market.own_dayAccount _) fun newAccount => Plan.own_pure _

/-- The instruction that opens trading has the key of the new mint sign. -/
theorem mem_startAccounts (admin base : Key) :
    .payer base ∈ market.startAccounts admin base := by
  simp [startAccounts]

end Market

/-- A batch is one for an operation. Nobody but the payer signs it unless a mint is made. -/
structure Batch.For (operation : Operation) (batch : Batch) : Prop where
  kind : batch.kind = operation.kind
  cosigners : (∀ amount name symbol uri, operation ≠ .start amount name symbol uri) →
    batch.cosigners = []

/-- A batch is for an instruction of the program, and nobody but the payer signs it. -/
def Batch.SignedAlone (kind : InstructionKind) (batch : Batch) : Prop :=
  batch.kind = kind ∧ batch.cosigners = []

/-- A batch makes a mint from a pair of keys that nobody had: the pair signs the batch, and the key
is named as one that signs. -/
structure Batch.Mints (batch : Batch) (pair : KeyPair) (exchanges : List Exchange) : Prop where
  fresh : ∃ asked due, ⟨.freshKey, asked, pair, due⟩ ∈ exchanges
  cosigners : batch.cosigners = [pair]
  signs : Message.SignsIn pair.key (batch.instructions.flatMap Message.mentions)

namespace Deployment

variable (deployment : Deployment)

/-- To read the state of the program, accounts are looked at. -/
theorem confined_market (now : Int64) :
    Confined Call.Looks (fun _ => True) (deployment.market now) :=
  .bind (Read.Own.both (Read.own_required _) (Read.own_required _)) fun _ => .pure trivial

/-- To read the loan of a user together with the state of the program, accounts are looked at. -/
theorem confined_marketAndLoan (owner : Key) (now : Int64) :
    Confined Call.Looks (fun _ => True) (deployment.marketAndLoan owner now) :=
  .bind (Read.Own.allThree (Read.own_required _) (Read.own_required _) (Read.own_openLoan _ _))
    fun _ => .pure trivial

/-- Setting up looks at accounts, and comes to a batch that is signed by its payer alone. -/
theorem confined_setUp (admin feeReceiver quoteMint : Key) (buyFee sellFee leverageFee : String) :
    Confined Call.Looks (Batch.SignedAlone .initMainState)
      (deployment.setUp admin feeReceiver quoteMint buyFee sellFee leverageFee) := by
  refine .bind (confined_ofInput _) fun sellFee => ?_
  refine .bind (confined_ofInput _) fun buyFee => ?_
  refine .bind (confined_ofInput _) fun leverageFee => ?_
  refine .bind (Read.own_optional _).perform fun present => ?_
  cases present with
  | none => exact .pure ⟨rfl, rfl⟩
  | some => exact .throw trivial

/-- A change to the configuration looks at accounts, and comes to a batch that is signed by its payer
alone. -/
theorem confined_update (admin : Key) (change : ConfigChange) :
    Confined Call.Looks (Batch.SignedAlone .updateMainState) (deployment.update admin change) := by
  refine .bind (confined_ofInput _) fun args => ?_
  refine .bind (Read.own_required _).perform fun config => ?_
  dsimp only
  split
  · exact .throw trivial
  · split
    · exact .throw trivial
    · exact .pure ⟨rfl, rfl⟩

/-- Opening trading looks at accounts and makes a key. -/
theorem confined_start (admin : Key) (now : Int64) (amount name symbol uri : String) :
    Confined Call.Builds (·.kind = .start)
      (deployment.start admin now amount name symbol uri) := by
  refine .bind ((deployment.confined_market now).mono fun _ => Call.Looks.builds) fun market => ?_
  dsimp only
  split
  · exact .throw trivial
  · refine .bind ((market.confined_units _ _).mono fun _ => Call.Looks.builds) fun units => ?_
    exact .bind (.freshKey trivial) fun base => .pure rfl

/-- A batch mentions the accounts of the program's instruction. -/
theorem mem_mentions_batch {kind : InstructionKind} (owner : Key) {accounts : List AccountUse}
    {data : Bytes} {use : AccountUse} (hmem : use ∈ accounts) :
    use ∈ (deployment.batch kind owner accounts data).instructions.flatMap Message.mentions :=
  List.mem_flatMap.mpr ⟨_, List.mem_cons_of_mem _ (List.mem_singleton_self _),
    List.mem_cons_of_mem _ hmem⟩

/-- The batch that opens trading names the key of a fresh pair, which signs it as well. -/
theorem ends_start {admin : Key} {now : Int64} {amount name symbol uri : String}
    {cancel : Option Nat} {start finish : Nat} {exchanges : List Exchange} {batch : Batch}
    (run : (deployment.start admin now amount name symbol uri).run.Ends cancel start exchanges
      (.ok (.ok batch)) finish) : ∃ pair, batch.Mints pair exchanges := by
  obtain ⟨market, reading, _, _, rfl, -, hmarket⟩ := ends_bind_ok run
  dsimp only at hmarket
  split at hmarket
  · obtain ⟨-, hresult, -⟩ := Task.Ends.of_done hmarket
    cases hresult
  · obtain ⟨units, scaling, _, asked, rfl, -, hunits⟩ := ends_bind_ok hmarket
    obtain ⟨pair, minting, _, _, rfl, hpair, hbatch⟩ := ends_bind_ok hunits
    obtain ⟨answer, due, _, -, rfl, hanswer⟩ := Task.Ends.of_ask hpair
    obtain ⟨rfl, hresult, -⟩ := Task.Ends.of_done hanswer
    cases hresult
    obtain ⟨rfl, hresult, -⟩ := Task.Ends.of_done hbatch
    cases hresult
    have hfresh := List.mem_append_right scaling (List.mem_append_left []
      (List.mem_singleton_self (⟨.freshKey, asked, pair, due⟩ : Exchange)))
    exact ⟨pair, ⟨_, due, List.mem_append_right reading hfresh⟩, rfl, .payer pair.key,
      deployment.mem_mentions_batch admin (market.mem_startAccounts admin pair.key), rfl, rfl, rfl⟩

/-- Buying looks at accounts, and comes to a batch that is signed by its payer alone. -/
theorem confined_buy (owner : Key) (now : Int64) (amount : String) :
    Confined Call.Looks (Batch.SignedAlone .buy) (deployment.buy owner now amount) := by
  refine .bind (deployment.confined_market now) fun market => ?_
  refine .bind (market.confined_units _ _) fun units => ?_
  exact .bind (market.own_commonUsage owner).confined fun usage => .pure ⟨rfl, rfl⟩

/-- Buying with a referral looks at accounts, and comes to a batch that is signed by its payer
alone. -/
theorem confined_buyWithReferral (owner : Key) (now : Int64) (amount : String) (referral : Key) :
    Confined Call.Looks (Batch.SignedAlone .buyWithReferral)
      (deployment.buyWithReferral owner now amount referral) := by
  unfold buyWithReferral
  dsimp only
  split
  · exact .throw trivial
  · refine .bind (deployment.confined_market now) fun market => ?_
    refine .bind (market.confined_units _ _) fun units => ?_
    exact .bind (market.own_commonUsage owner).confined fun usage => .pure ⟨rfl, rfl⟩

/-- Selling looks at accounts, and comes to a batch that is signed by its payer alone. -/
theorem confined_sell (owner : Key) (now : Int64) (amount : String) :
    Confined Call.Looks (Batch.SignedAlone .sell) (deployment.sell owner now amount) := by
  refine .bind (deployment.confined_market now) fun market => ?_
  refine .bind (market.confined_units _ _) fun units => ?_
  exact .bind (market.own_commonUsage owner).confined fun usage => .pure ⟨rfl, rfl⟩

/-- Liquidating looks at accounts, and comes to a batch that is signed by its payer alone. -/
theorem confined_liquidate (owner : Key) (now : Int64) :
    Confined Call.Looks (Batch.SignedAlone .liquidate) (deployment.liquidate owner now) := by
  refine .bind (deployment.confined_market now) fun market => ?_
  exact .bind (market.own_commonUsage owner).confined fun usage => .pure ⟨rfl, rfl⟩

/-- Taking a loan looks at accounts, and comes to a batch that is signed by its payer alone. -/
theorem confined_openLoan (kind : InstructionKind) (owner : Key) (now : Int64) (amount : String)
    (days : UInt64) :
    Confined Call.Looks (Batch.SignedAlone kind)
      (deployment.openLoan kind owner now amount days) := by
  refine .bind (deployment.confined_market now) fun market => ?_
  refine .bind (market.confined_units _ _) fun units => ?_
  exact .bind (market.own_openLoanUsage owner days).confined fun usage => .pure ⟨rfl, rfl⟩

/-- A change to a loan looks at accounts, and comes to a batch that is signed by its payer alone. -/
theorem confined_adjustLoan (kind : InstructionKind) (owner : Key) (now : Int64) (asset : Asset)
    (amount : String) :
    Confined Call.Looks (Batch.SignedAlone kind)
      (deployment.adjustLoan kind owner now asset amount) := by
  refine .bind (deployment.confined_marketAndLoan owner now) fun state => ?_
  refine .bind (state.1.confined_units _ _) fun units => ?_
  exact .bind (state.1.own_adjustLoanUsage owner state.2).confined fun usage => .pure ⟨rfl, rfl⟩

/-- Paying a loan back from its own collateral looks at accounts, and comes to a batch that is signed
by its payer alone. -/
theorem confined_flashClose (owner : Key) (now : Int64) :
    Confined Call.Looks (Batch.SignedAlone .flashClosePosition)
      (deployment.flashClose owner now) := by
  refine .bind (deployment.confined_marketAndLoan owner now) fun state => ?_
  exact .bind (state.1.own_adjustLoanUsage owner state.2).confined fun usage => .pure ⟨rfl, rfl⟩

/-- Extending a loan looks at accounts, and comes to a batch that is signed by its payer alone. -/
theorem confined_extendLoan (owner : Key) (now : Int64) (days : UInt64) :
    Confined Call.Looks (Batch.SignedAlone .extendLoan)
      (deployment.extendLoan owner now days) := by
  refine .bind (deployment.confined_marketAndLoan owner now) fun state => ?_
  have hplan := state.1.own_extendLoanUsage owner state.2 days
  dsimp only
  -- the plan is named because unification would compute with the bounds of the calendar in it
  generalize state.1.extendLoanUsage owner state.2 days = plan at hplan
  exact .bind hplan.confined fun usage => .pure ⟨rfl, rfl⟩

/-- Staking looks at accounts, and comes to a batch that is signed by its payer alone. -/
theorem confined_stake (owner : Key) (now : Int64) (amount : String) :
    Confined Call.Looks (Batch.SignedAlone .stake) (deployment.stake owner now amount) := by
  refine .bind (deployment.confined_market now) fun market => ?_
  refine .bind (confined_ofInput _) fun staking => ?_
  refine .bind (market.confined_units _ _) fun units => ?_
  exact .bind (confined_ofInput _) fun mint => .pure ⟨rfl, rfl⟩

/-- Taking a stake back looks at accounts, and comes to a batch that is signed by its payer alone. -/
theorem confined_unstake (owner : Key) (now : Int64) (amount : String) :
    Confined Call.Looks (Batch.SignedAlone .unstake) (deployment.unstake owner now amount) := by
  refine .bind (deployment.confined_market now) fun market => ?_
  refine .bind (confined_ofInput _) fun staking => ?_
  refine .bind (market.confined_units _ _) fun units => ?_
  exact .bind (confined_ofInput _) fun mint => .pure ⟨rfl, rfl⟩

/-- Building is confined, whatever the operation and whatever is read. -/
theorem confined_build (operation : Operation) (owner : Key) (now : Int64) :
    Confined Call.Builds (Batch.For operation) (deployment.build operation owner now) := by
  have halone {kind : InstructionKind} {action : Action Batch} (hkind : kind = operation.kind)
      (haction : Confined Call.Looks (Batch.SignedAlone kind) action) :
      Confined Call.Builds (Batch.For operation) action :=
    (haction.mono fun _ => Call.Looks.builds).imp fun batch hbatch =>
      ⟨hbatch.1.trans hkind, fun _ => hbatch.2⟩
  refine .bind (confined_ofInput _) fun _ => ?_
  cases operation with
  | setUp => exact halone rfl (deployment.confined_setUp ..)
  | update => exact halone rfl (deployment.confined_update ..)
  | start amount name symbol uri =>
    refine (deployment.confined_start owner now amount name symbol uri).imp fun batch hkind => ?_
    exact ⟨hkind, fun hstart => absurd rfl (hstart amount name symbol uri)⟩
  | buy amount referral =>
    cases referral with
    | none => exact halone rfl (deployment.confined_buy ..)
    | some => exact halone rfl (deployment.confined_buyWithReferral ..)
  | sell => exact halone rfl (deployment.confined_sell ..)
  | borrow => exact halone rfl (deployment.confined_openLoan ..)
  | borrowMore => exact halone rfl (deployment.confined_adjustLoan ..)
  | leverage => exact halone rfl (deployment.confined_openLoan ..)
  | extendLoan => exact halone rfl (deployment.confined_extendLoan ..)
  | repay => exact halone rfl (deployment.confined_adjustLoan ..)
  | removeCollateral => exact halone rfl (deployment.confined_adjustLoan ..)
  | closePosition => exact halone rfl (deployment.confined_adjustLoan ..)
  | flashClosePosition => exact halone rfl (deployment.confined_flashClose ..)
  | liquidate => exact halone rfl (deployment.confined_liquidate ..)
  | stake => exact halone rfl (deployment.confined_stake ..)
  | unstake => exact halone rfl (deployment.confined_unstake ..)

/-- A batch that makes a mint makes it from a fresh pair of keys. -/
theorem ends_build_start {owner : Key} {now : Int64} {amount name symbol uri : String}
    {cancel : Option Nat} {start finish : Nat} {exchanges : List Exchange} {batch : Batch}
    (run : (deployment.build (.start amount name symbol uri) owner now).run.Ends cancel start
      exchanges (.ok (.ok batch)) finish) : ∃ pair, batch.Mints pair exchanges := by
  obtain ⟨_, before, after, middle, rfl, hplan, hstart⟩ := ends_bind_ok run
  obtain ⟨rfl, -, rfl⟩ := ends_plan hplan
  exact deployment.ends_start hstart

end Deployment

end LendingClient
