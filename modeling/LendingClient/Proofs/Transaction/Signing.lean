import LendingClient.Proofs.Except
import LendingClient.Transaction.Basic

/-!
# Signatures of a message

A message lists the keys that have to sign first: the payer, and every key that some instruction has
sign. Uses of one key are merged on the way, and none of them is lost. A signed message has the
signature of each of these keys in the key's place.
-/

namespace LendingClient

namespace Message

/-- A key signs, and may be changed, by one of some uses. -/
def SignsIn (key : Key) (uses : List AccountUse) : Prop :=
  ∃ use ∈ uses, use.key = key ∧ use.signs = true ∧ use.writable = true

variable {key payer : Key} {use other : AccountUse} {uses named : List AccountUse}

private theorem signsIn_cons :
    SignsIn key (use :: uses) ↔
      (use.key = key ∧ use.signs = true ∧ use.writable = true) ∨ SignsIn key uses := by
  simp [SignsIn]

/-- A use is not lost when it is added. -/
theorem signsIn_mention_self (hsigns : use.signs = true) (hwritable : use.writable = true) :
    SignsIn use.key (mention use uses) := by
  induction uses with
  | nil => exact ⟨use, List.mem_singleton_self use, rfl, hsigns, hwritable⟩
  | cons other uses ih =>
    rw [mention]
    split
    · rename_i hkey
      exact signsIn_cons.mpr (.inl ⟨hkey.symm, by simp [hsigns], by simp [hwritable]⟩)
    · split
      · exact signsIn_cons.mpr (.inl ⟨rfl, hsigns, hwritable⟩)
      · exact signsIn_cons.mpr (.inr ih)

/-- No use is lost when another one is added. -/
theorem SignsIn.mention (h : SignsIn key uses) : SignsIn key (mention use uses) := by
  induction uses with
  | nil => simp [SignsIn] at h
  | cons other uses ih =>
    rw [Message.mention]
    rcases signsIn_cons.mp h with ⟨hkey, hsigns, hwritable⟩ | hlater
    · split
      · exact signsIn_cons.mpr (.inl ⟨hkey, by simp [hsigns], by simp [hwritable]⟩)
      · split
        · exact signsIn_cons.mpr (.inr h)
        · exact signsIn_cons.mpr (.inl ⟨hkey, hsigns, hwritable⟩)
    · split
      · exact signsIn_cons.mpr (.inr hlater)
      · split
        · exact signsIn_cons.mpr (.inr h)
        · exact signsIn_cons.mpr (.inr (ih hlater))

/-- No use is lost when others are added one after the other. -/
theorem SignsIn.foldl (h : SignsIn key uses) :
    SignsIn key (named.foldl (fun uses use => Message.mention use uses) uses) := by
  induction named generalizing uses with
  | nil => exact h
  | cons use named ih => exact ih h.mention

/-- Of all uses that are added one after the other none is lost. -/
theorem signsIn_foldl (h : SignsIn key named) :
    SignsIn key (named.foldl (fun uses use => mention use uses) uses) := by
  induction named generalizing uses with
  | nil => simp [SignsIn] at h
  | cons use named ih =>
    rcases signsIn_cons.mp h with ⟨rfl, hsigns, hwritable⟩ | hlater
    · exact (signsIn_mention_self hsigns hwritable).foldl
    · exact ih hlater

/-- The keys that sign and may be changed are in the group of such keys. -/
theorem mem_group_of_signsIn (h : SignsIn key uses) : key ∈ group true true uses := by
  obtain ⟨use, hmem, rfl, hsigns, hwritable⟩ := h
  exact List.mem_map_of_mem (List.mem_filter.mpr ⟨hmem, by simp [hsigns, hwritable]⟩)

variable {instructions : List Instruction} {blockhash : Blockhash} {message : Message}

/-- A message is bound to the block hash that it was compiled with. -/
theorem blockhash_compile (h : compile payer instructions blockhash = .ok message) :
    message.blockhash = blockhash := by
  unfold compile at h
  dsimp only at h
  split at h
  · cases h
    rfl
  · cases h

/-- The keys that have to sign are the payer's and the two groups of signing keys. -/
theorem signerKeys_compile (h : compile payer instructions blockhash = .ok message) :
    message.signerKeys = payer :: group true true (namedKeys payer instructions) ++
      group true false (namedKeys payer instructions) := by
  unfold compile at h
  dsimp only at h
  split at h
  · rename_i hfits
    cases h
    have hcount : (UInt8.ofNat (payer :: group true true (namedKeys payer instructions) ++
        group true false (namedKeys payer instructions)).length).toNat =
        (payer :: group true true (namedKeys payer instructions) ++
          group true false (namedKeys payer instructions)).length := by
      rw [UInt8.toNat_ofNat', Nat.mod_eq_of_lt hfits.1]
    rw [signerKeys, hcount, List.append_assoc, List.take_left']
    rfl
  · cases h

/-- A key that an instruction has sign, and that may be changed, is one of the keys that have to. -/
theorem mem_signerKeys_of_signsIn (h : compile payer instructions blockhash = .ok message)
    (hsigns : SignsIn key (instructions.flatMap mentions)) : key ∈ message.signerKeys := by
  rw [signerKeys_compile h]
  by_cases hpayer : key = payer
  · simp [hpayer]
  · have hmentioned : SignsIn key
        ((instructions.flatMap mentions).foldl (fun uses use => mention use uses) []) :=
      signsIn_foldl hsigns
    obtain ⟨use, hmem, rfl, hflags⟩ := hmentioned
    have hnamed : SignsIn use.key (namedKeys payer instructions) :=
      ⟨use, List.mem_filter.mpr ⟨hmem, by simp [hpayer]⟩, rfl, hflags⟩
    exact List.mem_append_left _ (List.mem_cons_of_mem _ (mem_group_of_signsIn hnamed))

end Message

/-- A signer says that its key is this one, and signs whatever it is asked to. -/
structure Signer.Works (signer : Signer) (key : Key) : Prop where
  key : signer.key = .ok key
  signs : ∀ message, ∃ signature, signer.sign message = .ok signature

/-- A pair of keys signs whatever it is asked to. -/
theorem KeyPair.works_signer (pair : KeyPair) : pair.signer.Works pair.key :=
  ⟨rfl, fun message => ⟨pair.sign message, rfl⟩⟩

namespace Transaction

variable {batch : Batch} {signer : Signer} {blockhash : Blockhash} {message : Message}
  {transaction : Transaction}

/-- A signer compiles a batch only if it is the one that pays. -/
theorem compile_eq_ok (h : compile batch signer blockhash = .ok message) :
    signer.key = .ok batch.payer ∧
      Message.compile batch.payer batch.instructions blockhash = .ok message := by
  unfold compile at h
  obtain ⟨key, hkey, hrest⟩ := bind_eq_ok_iff.mp h
  dsimp only at hrest
  split at hrest
  · cases hrest
  · rename_i hpayer
    rw [mapError_eq_ok_iff.mp hkey, Decidable.not_not.mp hpayer]
    exact ⟨rfl, hrest⟩

/-- A transaction is a compiled message with its signatures. -/
theorem ofBatch_eq_ok (h : ofBatch batch signer blockhash = .ok (.ok transaction)) :
    compile batch signer blockhash = .ok transaction.message ∧
      transaction.message.signerKeys.mapM
        (signFor signer batch.payer batch.cosigners transaction.message.bytes) =
          .ok transaction.signatures := by
  unfold ofBatch at h
  split at h
  · cases h
  · rename_i message hcompile
    split at h
    · simp only [Except.ok.injEq] at h
      obtain ⟨signatures, hsignatures, hsigned⟩ := bind_eq_ok_iff.mp h
      cases hsigned
      exact ⟨hcompile, hsignatures⟩
    · cases h

/-- A transaction is bound to the block hash that it was signed against. -/
theorem blockhash_ofBatch (h : ofBatch batch signer blockhash = .ok (.ok transaction)) :
    transaction.message.blockhash = blockhash :=
  Message.blockhash_compile (compile_eq_ok (ofBatch_eq_ok h).1).2

/-- A transaction is paid for by its signer. -/
theorem key_ofBatch (h : ofBatch batch signer blockhash = .ok (.ok transaction)) :
    signer.key = .ok batch.payer :=
  (compile_eq_ok (ofBatch_eq_ok h).1).1

/-- A key that an instruction has sign, and that may be changed, has to sign the transaction. -/
theorem mem_signerKeys_ofBatch {key : Key}
    (h : ofBatch batch signer blockhash = .ok (.ok transaction))
    (hsigns : Message.SignsIn key (batch.instructions.flatMap Message.mentions)) :
    key ∈ transaction.message.signerKeys :=
  Message.mem_signerKeys_of_signsIn (compile_eq_ok (ofBatch_eq_ok h).1).2 hsigns

/-- Among the signatures of a transaction, in the key's place, is that of each key that has to
sign. -/
theorem mem_signatures_ofBatch {key : Key}
    (h : ofBatch batch signer blockhash = .ok (.ok transaction))
    (hmem : key ∈ transaction.message.signerKeys) :
    ∃ signature, signFor signer batch.payer batch.cosigners transaction.message.bytes key =
        .ok signature ∧
      (key, signature) ∈ transaction.message.signerKeys.zip transaction.signatures :=
  exists_mem_zip_of_mapM (ofBatch_eq_ok h).2 hmem

/-- A transaction has as many signatures as there are keys that have to sign. -/
theorem length_signatures_ofBatch (h : ofBatch batch signer blockhash = .ok (.ok transaction)) :
    transaction.signatures.length = transaction.message.signerKeys.length :=
  length_of_mapM (ofBatch_eq_ok h).2

/-! ### When signing succeeds -/

/-- A signature is the one that a key needs: the signer's for the payer's key, and that of a cosigner
with the key for every other. -/
def SignsFor (signer : Signer) (payer : Key) (cosigners : List KeyPair) (bytes : Bytes) (key : Key)
    (signature : Signature) : Prop :=
  key = payer ∧ signer.sign bytes = .ok signature ∨
    key ≠ payer ∧ ∃ pair ∈ cosigners, pair.key = key ∧ signature = pair.sign bytes

section SignsFor

variable {payer key : Key} {cosigners : List KeyPair} {bytes : Bytes} {signature : Signature}

/-- What is signed for a key is what the key needs. -/
theorem signsFor_of_signFor (h : signFor signer payer cosigners bytes key = .ok signature) :
    SignsFor signer payer cosigners bytes key signature := by
  by_cases hpayer : key = payer
  · rw [signFor, if_pos hpayer] at h
    exact .inl ⟨hpayer, mapError_eq_ok_iff.mp h⟩
  · rw [signFor, if_neg hpayer] at h
    cases hfound : cosigners.find? (·.key = key) with
    | none =>
      rw [hfound] at h
      cases h
    | some pair =>
      rw [hfound] at h
      cases h
      have hpair := List.find?_some hfound
      simp only [decide_eq_true_eq] at hpair
      exact .inr ⟨hpayer, pair, List.mem_of_find?_eq_some hfound, hpair, rfl⟩

/-- A key is signed for if it is the payer's, and the payer can sign, or that of a cosigner. -/
theorem exists_signFor (hsign : ∃ signature, signer.sign bytes = .ok signature)
    (hkey : key ∈ payer :: cosigners.map (·.key)) :
    ∃ signature, signFor signer payer cosigners bytes key = .ok signature := by
  by_cases hpayer : key = payer
  · obtain ⟨signature, hsignature⟩ := hsign
    refine ⟨signature, ?_⟩
    rw [signFor, if_pos hpayer, hsignature]
    rfl
  · have hcosigner : key ∈ cosigners.map (·.key) :=
      (List.mem_cons.mp hkey).resolve_left hpayer
    obtain ⟨pair, hpair, hpairKey⟩ := List.mem_map.mp hcosigner
    obtain ⟨found, hfound⟩ : ∃ found, cosigners.find? (·.key = key) = some found := by
      refine Option.isSome_iff_exists.mp (List.find?_isSome.mpr ⟨pair, hpair, ?_⟩)
      exact decide_eq_true hpairKey
    refine ⟨found.sign bytes, ?_⟩
    rw [signFor, if_neg hpayer, hfound]

/-- Only keys of the payer and the cosigners are signed for. -/
theorem SignsFor.mem (h : SignsFor signer payer cosigners bytes key signature) :
    key ∈ payer :: cosigners.map (·.key) := by
  rcases h with ⟨rfl, -⟩ | ⟨-, pair, hmem, rfl, -⟩
  · exact List.mem_cons_self
  · exact List.mem_cons_of_mem _ (List.mem_map_of_mem hmem)

end SignsFor

/-- Every key that has to sign a transaction is the payer's or that of a cosigner. -/
theorem signerKeys_subset_of_ofBatch (h : ofBatch batch signer blockhash = .ok (.ok transaction)) :
    transaction.message.signerKeys ⊆ batch.payer :: batch.cosigners.map (·.key) := by
  intro key hkey
  obtain ⟨signature, hsignature, -⟩ := mem_signatures_ofBatch h hkey
  exact (signsFor_of_signFor hsignature).mem

/-- The one that pays compiles a batch as it is. -/
theorem compile_of_key (hkey : signer.key = .ok batch.payer) :
    compile batch signer blockhash =
      Message.compile batch.payer batch.instructions blockhash := by
  unfold compile
  rw [hkey]
  change (if batch.payer ≠ batch.payer then _ else _) = _
  rw [if_neg (not_not_intro rfl)]

/-- A batch becomes a transaction when its payer can sign its message, the message can be written and
no key that has to sign is foreign to the payer and the cosigners. -/
theorem exists_ofBatch (hkey : signer.key = .ok batch.payer)
    (hsign : ∃ signature, signer.sign message.bytes = .ok signature)
    (hcompile : Message.compile batch.payer batch.instructions blockhash = .ok message)
    (hfits : message.fits = true)
    (hsigners : message.signerKeys ⊆ batch.payer :: batch.cosigners.map (·.key)) :
    ∃ transaction, ofBatch batch signer blockhash = .ok (.ok transaction) ∧
      transaction.message = message := by
  obtain ⟨signatures, hsignatures⟩ := exists_mapM_eq_ok fun key hmem =>
    exists_signFor hsign (hsigners hmem)
  have hsigned : sign batch signer message = .ok ⟨signatures, message⟩ :=
    bind_eq_ok_iff.mpr ⟨signatures, hsignatures, rfl⟩
  refine ⟨⟨signatures, message⟩, ?_, rfl⟩
  rw [ofBatch, compile_of_key hkey, hcompile]
  dsimp only
  rw [if_pos hfits, hsigned]

end Transaction

end LendingClient
