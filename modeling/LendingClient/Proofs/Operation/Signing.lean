import LendingClient.Proofs.Operation.Breaking
import LendingClient.Proofs.Operation.Outline

/-!
# Built batches can be signed and sent

What building comes to is never lost on the way to the ledger. Whatever keys the accounts hold, and
whichever of them coincide, the message can be written, its signers are the owner and the mint that
is made, and the signed transaction fits in a packet.
-/

namespace LendingClient

open LendingClient.Action

/-- A transaction is to be signed by its owner first, then by the pair that is minted, and by nobody
else, and has as many signatures. -/
structure Transaction.SignedFor (transaction : Transaction) (owner : Key)
    (minted : Option KeyPair) : Prop where
  signers : transaction.message.signerKeys = owner :: minted.toList.map (·.key)
  required : transaction.message.header.requiredSignatures.toNat = 1 + minted.toList.length
  count : transaction.signatures.length = 1 + minted.toList.length

namespace Batch.Outline

variable {batch : Batch} {owner : Key} {minted : Option KeyPair} {signer : Signer}
  {transaction : Transaction}

/-- A signer that works turns such a batch into a transaction, against any block hash. -/
theorem exists_ofBatch (h : batch.Outline owner minted) (hworks : signer.Works owner)
    (blockhash : Blockhash) :
    ∃ transaction, Transaction.ofBatch batch signer blockhash = .ok (.ok transaction) := by
  obtain ⟨names, hcompact⟩ := h.compact
  obtain ⟨message, hcompile⟩ := hcompact.exists_compile blockhash
  have hsigners : message.signerKeys ⊆ batch.payer :: batch.cosigners.map (·.key) := by
    have hsigned := h.signed
    rw [← h.payer] at hsigned
    intro key hkey
    rw [h.cosigners]
    exact (Message.mem_signerKeys_iff hcompile hsigned).mp hkey
  rw [← h.payer] at hworks
  obtain ⟨transaction, htransaction, -⟩ :=
    Transaction.exists_ofBatch hworks.key (hworks.signs message.bytes) hcompile
      (hcompact.fits hcompile) hsigners
  exact ⟨transaction, htransaction⟩

/-- The signers of such a batch are its owner and the pair that is minted, if that is another. -/
theorem signedFor (h : batch.Outline owner minted) (hfresh : ∀ pair ∈ minted, pair.key ≠ owner)
    {blockhash : Blockhash}
    (hbatch : Transaction.ofBatch batch signer blockhash = .ok (.ok transaction)) :
    transaction.SignedFor owner minted := by
  have hcompile := (Transaction.compile_eq_ok (Transaction.ofBatch_eq_ok hbatch).1).2
  rw [h.payer] at hcompile
  have hnodup : (owner :: minted.toList.map (·.key)).Nodup := by
    cases minted with
    | none => exact List.nodup_singleton owner
    | some pair =>
      have hne : owner ≠ pair.key := (hfresh pair rfl).symm
      simpa using hne
  obtain ⟨others, hsigners, hperm⟩ := Message.signerKeys_compile_perm hcompile hnodup h.signed
  have hothers : others = minted.toList.map (·.key) := by
    cases minted with
    | none => exact hperm.eq_nil
    | some pair => exact List.perm_singleton.mp hperm
  rw [hothers] at hsigners
  have hlength : transaction.message.signerKeys.length = 1 + minted.toList.length := by
    rw [hsigners, List.length_cons, List.length_map, Nat.add_comm]
  refine ⟨hsigners, ?_, ?_⟩
  · rw [Message.requiredSignatures_compile hcompile, hlength]
  · rw [Transaction.length_signatures_ofBatch hbatch, hlength]

end Batch.Outline

/-- A ledger on which the program is set up, but trading is not open yet. -/
def setUpLedger : ScriptedLedger where
  accounts := {
    entries := [
      ((Address.mainState Deployment.sample.program).1, Record.encode MainState.sample),
      ((Address.globalStats Deployment.sample.program).1,
        Record.encode { GlobalStats.sample with baseToken := Key.unset, started := false }),
      (Octets.filled 32 3, Mint.dataOf 6)] }

/-- The pair of whoever opens trading there. -/
def KeyPair.sample : KeyPair := .ofSeed (Octets.filled 32 9)

/-- An operation that opens trading. -/
def Operation.opening : Operation :=
  .start "1.5" "Sample token" "SMPL" "https://example.org/token.json"

/-- On that ledger, opening trading comes to a batch. -/
theorem exists_batch_opening :
    ∃ batch, (setUpLedger.run (Deployment.sample.build .opening KeyPair.sample.key
      1700000000)).1 = .ok (.ok batch) := by
  exact exists_eq_ok_ok (by decide +kernel)

/-- The pair that is minted there is another. -/
theorem minted_opening_ne : ∀ pair ∈ Operation.opening.minted setUpLedger.snapshot.fresh,
    pair.key ≠ KeyPair.sample.key := by
  have hne : setUpLedger.snapshot.fresh.key ≠ KeyPair.sample.key := by decide +kernel
  intro pair hpair
  cases hpair
  exact hne

namespace Deployment

/-- Whenever building comes to a batch, its owner can sign it, against any block hash: the message
can be written, nobody has to sign it but the owner, who is the first, and the mint that is made, if
it is not the owner's own key, and the transaction has that many signatures. -/
theorem build_signed (deployment : Deployment) (operation : Operation) (owner : Key) (now : Int64)
    (ledger : ScriptedLedger) (batch : Batch) (signer : Signer) (blockhash : Blockhash)
    (hbuild : (ledger.run (deployment.build operation owner now)).1 = .ok (.ok batch))
    (hsigner : signer.Works owner)
    (hfresh : ∀ pair ∈ operation.minted ledger.snapshot.fresh, pair.key ≠ owner) :
    ∃ transaction, Transaction.ofBatch batch signer blockhash = .ok (.ok transaction) ∧
      transaction.SignedFor owner (operation.minted ledger.snapshot.fresh) := by
  have houtline := outline_of_valueOn (deployment.valueOn_build_of_play hbuild)
  obtain ⟨transaction, htransaction⟩ := houtline.exists_ofBatch hsigner blockhash
  exact ⟨transaction, htransaction, houtline.signedFor hfresh htransaction⟩

/-- Who opens trading on the sample ledger signs for it together with the mint. -/
theorem build_signed_setUpLedger :
    ∃ batch transaction, (setUpLedger.run (sample.build .opening KeyPair.sample.key
        1700000000)).1 = .ok (.ok batch) ∧
      Transaction.ofBatch batch KeyPair.sample.signer (Octets.filled 32 0) =
        .ok (.ok transaction) ∧
      transaction.SignedFor KeyPair.sample.key (some setUpLedger.snapshot.fresh) := by
  obtain ⟨batch, hbatch⟩ := exists_batch_opening
  obtain ⟨transaction, htransaction, hsigned⟩ :=
    build_signed sample .opening KeyPair.sample.key 1700000000 setUpLedger batch
      KeyPair.sample.signer (Octets.filled 32 0) hbatch KeyPair.sample.works_signer
      minted_opening_ne
  exact ⟨batch, transaction, hbatch, htransaction, hsigned⟩

/-- Whenever building comes to a batch, signing it does not break off; a signer that works makes a
transaction of it, and every transaction that is made of it fits in a packet. -/
theorem build_fitsPacket (deployment : Deployment) (operation : Operation) (owner : Key)
    (now : Int64) (ledger : ScriptedLedger) (batch : Batch) (signer : Signer)
    (blockhash : Blockhash)
    (hbuild : (ledger.run (deployment.build operation owner now)).1 = .ok (.ok batch)) :
    ∃ result, Transaction.ofBatch batch signer blockhash = .ok result ∧
      (signer.Works owner → ∃ transaction, result = .ok transaction) ∧
      ∀ transaction, result = .ok transaction →
        transaction.bytes.length ≤ Transaction.packetSize := by
  have houtline := outline_of_valueOn (deployment.valueOn_build_of_play hbuild)
  obtain ⟨names, hcompact⟩ := houtline.compact
  obtain ⟨result, hresult⟩ := hcompact.exists_result signer blockhash
  refine ⟨result, hresult, fun hworks => ?_, fun transaction htransaction => ?_⟩
  · obtain ⟨transaction, htransaction⟩ := houtline.exists_ofBatch hworks blockhash
    exact ⟨transaction, Except.ok.inj (hresult.symm.trans htransaction)⟩
  · rw [htransaction] at hresult
    exact hcompact.length_bytes_le hresult

/-- What opens trading on the sample ledger fits in a packet. -/
theorem build_fitsPacket_setUpLedger :
    ∃ batch transaction, (setUpLedger.run (sample.build .opening KeyPair.sample.key
        1700000000)).1 = .ok (.ok batch) ∧
      Transaction.ofBatch batch KeyPair.sample.signer (Octets.filled 32 0) =
        .ok (.ok transaction) ∧
      transaction.bytes.length ≤ 1232 := by
  obtain ⟨batch, hbatch⟩ := exists_batch_opening
  obtain ⟨result, hresult, hworks, hfits⟩ :=
    build_fitsPacket sample .opening KeyPair.sample.key 1700000000 setUpLedger batch
      KeyPair.sample.signer (Octets.filled 32 0) hbatch
  obtain ⟨transaction, rfl⟩ := hworks KeyPair.sample.works_signer
  exact ⟨batch, transaction, hbatch, hresult, hfits transaction rfl⟩

end Deployment

end LendingClient
