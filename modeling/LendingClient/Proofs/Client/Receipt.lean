import LendingClient.Proofs.Client.Course
import LendingClient.Proofs.Client.Resend

/-!
# What a receipt tells of

A run may build and sign several batches before one of its transactions is taken. The receipt tells
of that transaction and of no other: of its signature, of the batch that it was compiled from, and
of the mint whose key signed it.
-/

namespace LendingClient

open LendingClient.Action

/-- If a transaction was taken, it was answered with its own signature. -/
def Exchange.AnsweredOwn : Exchange → Prop
  | ⟨.send transaction, _, .ok signature, _⟩ => transaction.signature? = some signature
  | _ => True

instance : DecidablePred Exchange.AnsweredOwn := fun exchange =>
  match exchange with
  | ⟨.send transaction, _, .ok signature, _⟩ =>
    inferInstanceAs (Decidable (transaction.signature? = some signature))
  | ⟨.send _, _, .error _, _⟩ => .isTrue trivial
  | ⟨.account _, _, _, _⟩ | ⟨.accounts _, _, _, _⟩ | ⟨.blockhash, _, _, _⟩
  | ⟨.status _, _, _, _⟩ | ⟨.validity _, _, _, _⟩ | ⟨.simulate _, _, _, _⟩
  | ⟨.sleep _, _, _, _⟩ | ⟨.clock, _, _, _⟩ | ⟨.freshKey, _, _, _⟩ => .isTrue trivial

/-- Polling reads no status but that of the transaction that was taken. -/
private theorem SignedBatch.Watches.signature_eq {signed : SignedBatch} {polling : Polling}
    {signature other : Signature} {call : Call} (h : signed.Watches polling signature call)
    (hcall : call = .status other) : other = signature := by
  subst hcall
  exact h

/-- Polling asks after no block hash but that of the transaction. -/
private theorem SignedBatch.Watches.blockhash_eq {signed : SignedBatch} {polling : Polling}
    {signature : Signature} {call : Call} {blockhash : Blockhash}
    (h : signed.Watches polling signature call) (hcall : call = .validity blockhash) :
    blockhash = signed.blockhash := by
  subst hcall
  exact h

namespace Client

variable (client : Client) (operation : Operation) (owner : Key) (signer : Signer)
  (cancel : Option Nat)

/-- How the exchanges of a run lead to a transaction that was taken: by `building` a batch, asking
for a block hash, and `sending` the transaction compiled from both, until it is taken. -/
structure LeadsTo (batch : Batch) (transaction : Transaction) (signature : Signature)
    (earlier building sending after exchanges : List Exchange) : Prop where
  exchanges_eq : ∃ built told sentAt due, exchanges = earlier ++ (building ++
    ⟨.blockhash, built, (.ok transaction.message.blockhash : Except Error Blockhash), told⟩ ::
      (sending ++
        ⟨.send transaction, sentAt, (.ok signature : Except Error Signature), due⟩ :: after))
  prepared : ∃ begun done,
    (client.prepare operation owner).run.Ends cancel begun building (.ok (.ok batch)) done
  compiled :
    Transaction.ofBatch batch signer transaction.message.blockhash = .ok (.ok transaction)
  /-- The transaction is handed in, perhaps again and again, and its block hash is asked after. -/
  kept : ∀ exchange ∈ sending, exchange.call = .validity transaction.message.blockhash ∨
    exchange.call = .send transaction
  /-- No transaction is handed in after it was taken. -/
  last : ∀ exchange ∈ after, ¬exchange.call.Sends

/-- A receipt tells of a transaction, and of the batch that it was compiled from. -/
structure Describes (batch : Batch) (transaction : Transaction) (building after : List Exchange)
    (exchanges : List Exchange) (receipt : Receipt) : Prop where
  signature : transaction.signature? = some receipt.signature
  /-- It is the only signature whose status is asked for. -/
  statuses : ∀ exchange ∈ exchanges, ∀ signature, exchange.call = .status signature →
    signature = receipt.signature
  /-- While it is polled for, only its own block hash is asked after. -/
  validity : ∀ exchange ∈ after, ∀ blockhash, exchange.call = .validity blockhash →
    blockhash = transaction.message.blockhash
  kind : receipt.kind = batch.kind ∧ batch.kind = operation.kind
  days : receipt.days = batch.days
  /-- The mint is the fresh key that the batch was built with. It signs the transaction, unless it
  happens to be the payer's, who signs then. -/
  mint : ∀ amount name symbol uri, operation = .start amount name symbol uri →
    ∃ pair signed, batch.Mints pair building ∧ receipt.createdMint = some pair.key ∧
      (pair.key, signed) ∈ transaction.message.signerKeys.zip transaction.signatures ∧
      (pair.key ≠ owner → signed = pair.sign transaction.message.bytes)
  /-- Other operations make no mint, and nobody but the payer signs for them. -/
  mintless : (∀ amount name symbol uri, operation ≠ .start amount name symbol uri) →
    batch.cosigners = [] ∧ receipt.createdMint = none

variable {client operation owner signer cancel} {start finish : Nat} {exchanges : List Exchange}

/-- The exchanges that lead to a transaction that was taken hand it in. -/
theorem LeadsTo.mem {batch : Batch} {transaction : Transaction} {signature : Signature}
    {earlier building sending after : List Exchange}
    (h : LeadsTo client operation owner signer cancel batch transaction signature earlier building
      sending after exchanges) :
    ∃ sentAt due, ⟨.send transaction, sentAt, (.ok signature : Except Error Signature), due⟩ ∈
      exchanges := by
  obtain ⟨built, told, sentAt, due, rfl⟩ := h.exchanges_eq
  exact ⟨sentAt, due, by simp⟩

/-- A transaction that is held was compiled from a batch against the block hash that was asked for
last. -/
theorem ends_hold {held : Held}
    (run : (client.hold operation owner signer).run.Ends cancel start exchanges (.ok (.ok held))
      finish) :
    ∃ building built, exchanges = building ++
        [⟨.blockhash, built, (.ok held.signed.blockhash : Except Error Blockhash), finish⟩] ∧
      (client.prepare operation owner).run.Ends cancel start building (.ok (.ok held.batch))
        built ∧
      Transaction.ofBatch held.batch signer held.signed.blockhash =
        .ok (.ok held.signed.transaction) := by
  obtain ⟨batch, building, _, built, rfl, hbatch, hsigning⟩ := ends_bind_ok run
  obtain ⟨signed, _, _, _, rfl, hsigned, hpure⟩ := ends_bind_ok hsigning
  obtain ⟨rfl, hcompiled⟩ := SignedBatch.ends_ofBatch hsigned
  obtain ⟨rfl, hheld, rfl⟩ := Task.Ends.of_done hpure
  cases hheld
  exact ⟨building, built, by simp, hbatch, hcompiled⟩

/-- The transaction that attempts end with was led to, and is bound to the block hash that it will
be asked after. -/
theorem leadsTo_of_exhausts {retries : Nat} {lost : List Try} {final : Try} {held : Held}
    {signature : Signature}
    (hexhausts : Exhausts client operation owner signer cancel retries none start lost final finish)
    (hsent : final.ending = .ok (.sent held signature)) :
    ∃ earlier building sending, held.signed.Bound ∧ ∀ after : List Exchange,
      (∀ exchange ∈ after, ¬exchange.call.Sends) →
      LeadsTo client operation owner signer cancel held.batch held.signed.transaction signature
        earlier building sending after ((lost ++ [final]).flatMap Try.exchanges ++ after) := by
  obtain ⟨before, sentAt, due, hsplit, -⟩ := hexhausts.taken hsent
  rcases hexhausts.tries.origin hsent rfl with ⟨hnone, -⟩ | ⟨earlier, preparing, kept, begun, done,
    hflat, hhold, hkept⟩
  · cases hnone
  obtain ⟨building, built, rfl, hbatch, hcompiled⟩ := ends_hold hhold
  have hbound := Transaction.blockhash_ofBatch hcompiled
  -- the last exchange of the attempts hands the transaction in, so it is not the block hash
  rcases List.eq_nil_or_concat kept with rfl | ⟨sending, last, rfl⟩
  · have hlast := hflat.symm.trans hsplit
    rw [List.append_nil, ← List.append_assoc] at hlast
    cases (List.append_singleton_inj.mp hlast).2
  · have hlast := hflat.symm.trans hsplit
    rw [List.concat_eq_append, ← List.append_assoc, ← List.append_assoc] at hlast
    obtain ⟨-, rfl⟩ := List.append_singleton_inj.mp hlast
    refine ⟨earlier, building, sending, hbound, fun after hafter => ?_⟩
    refine
      { exchanges_eq := ⟨built, done, sentAt, due, by simp [hflat, hbound]⟩
        prepared := ⟨begun, built, hbatch⟩
        compiled := hbound ▸ hcompiled
        kept := fun exchange hmem => ?_
        last := hafter }
    rw [hbound]
    exact hkept exchange (by simp [hmem])

/-- A batch that makes a mint makes it from a pair of keys that was fresh when it was built. -/
theorem ends_prepare_start {amount name symbol uri : String} {batch : Batch}
    (run : (client.prepare (.start amount name symbol uri) owner).run.Ends cancel start exchanges
      (.ok (.ok batch)) finish) : ∃ pair, batch.Mints pair exchanges := by
  obtain ⟨now, _, building, _, rfl, -, hbuild⟩ := ends_bind_ok run
  obtain ⟨pair, hmints⟩ := client.deployment.ends_build_start hbuild
  obtain ⟨asked, due, hfresh⟩ := hmints.fresh
  exact ⟨pair, ⟨asked, due, List.mem_append_right _ hfresh⟩, hmints.cosigners, hmints.signs⟩

/-- The pair of keys that a mint is made from signs the transaction, unless it is the payer's. -/
theorem signed_of_mints {batch : Batch} {pair : KeyPair} {blockhash : Blockhash}
    {transaction : Transaction} (hkey : signer.key = .ok owner)
    (hmints : batch.Mints pair exchanges)
    (hcompiled : Transaction.ofBatch batch signer blockhash = .ok (.ok transaction)) :
    ∃ signed, (pair.key, signed) ∈ transaction.message.signerKeys.zip transaction.signatures ∧
      (pair.key ≠ owner → signed = pair.sign transaction.message.bytes) := by
  have hmem := Transaction.mem_signerKeys_ofBatch hcompiled hmints.signs
  obtain ⟨signed, hsign, hzip⟩ := Transaction.mem_signatures_ofBatch hcompiled hmem
  refine ⟨signed, hzip, fun hpayer => ?_⟩
  obtain rfl : batch.payer = owner :=
    Except.ok.inj ((Transaction.key_ofBatch hcompiled).symm.trans hkey)
  rw [Transaction.signFor, if_neg hpayer, hmints.cosigners] at hsign
  simp only [List.find?_singleton, decide_true, if_true] at hsign
  exact (Except.ok.inj hsign).symm

/-- If every transaction that was taken was answered with its own signature, a receipt tells of the
transaction that was handed in last, and of the batch that it was compiled from, however many were
built and handed in before. -/
theorem execute_describes {receipt : Receipt}
    (run : (client.execute operation signer).run.Ends cancel start exchanges (.ok (.ok receipt))
      finish) (hown : ∀ exchange ∈ exchanges, exchange.AnsweredOwn) :
    ∃ owner batch transaction earlier building sending after, signer.key = .ok owner ∧
      LeadsTo client operation owner signer cancel batch transaction receipt.signature earlier
        building sending after exchanges ∧
      Describes operation owner batch transaction building after exchanges receipt := by
  generalize hresult : (.ok (.ok receipt) : Except Abort (Except Error Receipt)) = result at run
  cases course_of_ends run with
  | keyless => cases hresult
  | @untaken _ _ _ _ _ stop => cases stop <;> cases hresult
  | unconfirmed => cases hresult
  | @confirmed taken begun done told lost final polling reading outcome signature loan hkey
      hexhausts hsent hwatched hended hreread =>
    cases hresult
    obtain rfl : signature = taken.signature := by
      cases SignedBatch.polled_confirm hwatched <;> cases hended
      rfl
    have hwatches := (taken.held.signed.only_confirm client.polling taken.signature).of_mem hwatched
    obtain ⟨earlier, building, sending, hbound, hleads⟩ := leadsTo_of_exhausts hexhausts hsent
    have hleadsTo := hleads (polling ++ reading) (List.forall_mem_append.mpr
      ⟨fun exchange hmem => SignedBatch.Watches.not_sends (hwatches exchange hmem),
        fun exchange hmem => (hreread.prepares exchange hmem).not_sends⟩)
    refine ⟨taken.owner, taken.held.batch, taken.held.signed.transaction, earlier, building,
      sending, polling ++ reading, hkey, hleadsTo, ?_⟩
    obtain ⟨begun, done, hbatch⟩ := hleadsTo.prepared
    have hfor := (client.confined_prepare operation taken.owner).value hbatch
    refine
      { signature := ?_
        statuses := List.forall_mem_append.mpr ⟨?_, List.forall_mem_append.mpr ⟨?_, ?_⟩⟩
        validity := List.forall_mem_append.mpr ⟨?_, ?_⟩
        kind := ⟨rfl, hfor.kind⟩
        days := rfl
        mint := ?_
        mintless := ?_ }
    · obtain ⟨sentAt, due, hmem⟩ := hleadsTo.mem
      exact hown _ hmem
    · intro exchange hmem signature hcall
      refine absurd ?_ (hexhausts.not_polls exchange hmem)
      rw [hcall]
      trivial
    · exact fun exchange hmem _ hcall => (hwatches exchange hmem).signature_eq hcall
    · intro exchange hmem signature hcall
      cases (hreread.calls exchange hmem).symm.trans hcall
    · exact fun exchange hmem _ hcall =>
        ((hwatches exchange hmem).blockhash_eq hcall).trans hbound.symm
    · intro exchange hmem blockhash hcall
      cases (hreread.calls exchange hmem).symm.trans hcall
    · rintro amount name symbol uri rfl
      obtain ⟨pair, hmints⟩ := ends_prepare_start hbatch
      obtain ⟨signed, hsigned⟩ := signed_of_mints hkey hmints hleadsTo.compiled
      refine ⟨pair, signed, hmints, ?_, hsigned⟩
      simp [HandedIn.receipt, hmints.cosigners]
    · intro hstart
      have hcosigners := hfor.cosigners hstart
      exact ⟨hcosigners, by simp [HandedIn.receipt, hcosigners]⟩

/-- At a ledger that loses a transaction and a status, there is a receipt that tells of what was
handed in. -/
theorem execute_describes_lossy :
    (sample.execute .sample .sample).run.Ends none 0
        (lossyLedger.exchanges (sample.execute .sample .sample).run)
        (.ok (.ok ⟨Octets.filled 64 3, .initMainState, [], none, none⟩)) 4300 ∧
      (∀ exchange ∈ lossyLedger.exchanges (sample.execute .sample .sample).run,
        exchange.AnsweredOwn) ∧
      ∃ owner batch transaction earlier building sending after, Signer.sample.key = .ok owner ∧
        LeadsTo sample .sample owner .sample none batch transaction (Octets.filled 64 3) earlier
          building sending after (lossyLedger.exchanges (sample.execute .sample .sample).run) ∧
        Describes .sample owner batch transaction building after
          (lossyLedger.exchanges (sample.execute .sample .sample).run)
          ⟨Octets.filled 64 3, .initMainState, [], none, none⟩ := by
  have hrun := ends_lossyLedger
  have hown : ∀ exchange ∈ lossyLedger.exchanges (sample.execute .sample .sample).run,
      exchange.AnsweredOwn := by decide +kernel
  exact ⟨hrun, hown, execute_describes hrun hown⟩

end Client

end LendingClient
