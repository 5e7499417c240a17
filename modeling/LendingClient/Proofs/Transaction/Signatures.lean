import LendingClient.Proofs.Transaction.Keys

/-!
# Who signs a transaction

A batch becomes a transaction when somebody is there to sign for every key that has to. Main
statement: exactly then, and if the message can be written at all, there is a transaction, with one
signature for each of those keys in the order of the keys; and a signer that does not pay gets none.
What cannot be counted in sixteen bits cannot be written, and then signing does not fail but breaks
off, though the message was compiled and everybody is there.
-/

namespace LendingClient

namespace Transaction

variable {batch : Batch} {signer : Signer} {blockhash : Blockhash} {message : Message}
  {transaction : Transaction} {key : Key}

/-- A transaction is a batch's compiled message with one signature for each key that has to sign, in
the order of the keys, each made by whom the key belongs to. The payer comes first, and no key comes
twice. -/
structure FullySigned (transaction : Transaction) (batch : Batch) (signer : Signer)
    (blockhash : Blockhash) : Prop where
  payer : signer.key = .ok batch.payer
  compiled : Message.compile batch.payer batch.instructions blockhash = .ok transaction.message
  first : transaction.message.signerKeys.head? = some batch.payer
  nodup : transaction.message.signerKeys.Nodup
  signatures : List.Forall₂
    (SignsFor signer batch.payer batch.cosigners transaction.message.bytes)
    transaction.message.signerKeys transaction.signatures

/-- Of the keys that sign a message, that of the payer comes first. -/
private theorem head?_signerKeys
    (h : Message.compile batch.payer batch.instructions blockhash = .ok message) :
    message.signerKeys.head? = some batch.payer := by
  rw [Message.signerKeys_compile h]
  rfl

/-- Whatever transaction a batch becomes, it is fully signed. -/
theorem fullySigned_ofBatch (h : ofBatch batch signer blockhash = .ok (.ok transaction)) :
    transaction.FullySigned batch signer blockhash := by
  obtain ⟨hown, hsignatures⟩ := ofBatch_eq_ok h
  obtain ⟨hkey, hcompile⟩ := compile_eq_ok hown
  exact {
    payer := hkey
    compiled := hcompile
    first := head?_signerKeys hcompile
    nodup := Message.nodup_signerKeys hcompile
    signatures := (forall₂_of_mapM hsignatures).imp fun _ _ => signsFor_of_signFor }

/-- The payer's message becomes a transaction exactly if it can be written, the payer can sign it, and
every key that has to sign is the payer's or a cosigner's. -/
theorem exists_ofBatch_iff (hkey : signer.key = .ok batch.payer)
    (hcompile : Message.compile batch.payer batch.instructions blockhash = .ok message) :
    (∃ transaction, ofBatch batch signer blockhash = .ok (.ok transaction)) ↔
      Message.Countable batch.instructions ∧ (∃ signature, signer.sign message.bytes = .ok signature) ∧
        ∀ key ∈ message.signerKeys, key ∈ batch.payer :: batch.cosigners.map (·.key) := by
  constructor
  · rintro ⟨transaction, h⟩
    have hsame := (compile_eq_ok (ofBatch_eq_ok h).1).2.symm.trans hcompile
    have hmessage : transaction.message = message := Except.ok.inj hsame
    have hsigners := signerKeys_subset_of_ofBatch h
    -- the payer always has to sign, so its signature is among those that were made
    have hpayer : batch.payer ∈ transaction.message.signerKeys := by
      rw [hmessage]
      exact List.mem_of_mem_head? (head?_signerKeys hcompile)
    obtain ⟨signature, hsignature, -⟩ := mem_signatures_ofBatch h hpayer
    rw [hmessage] at hsignature hsigners
    refine ⟨?_, ⟨signature, ?_⟩, fun key hmem => hsigners hmem⟩
    · rw [← Message.fits_compile_iff hcompile]
      by_contra hunfit
      rw [ofBatch, compile_of_key hkey, hcompile] at h
      dsimp only at h
      rw [if_neg hunfit] at h
      cases h
    · rcases signsFor_of_signFor hsignature with ⟨-, hsign⟩ | ⟨hne, -⟩
      · exact hsign
      · exact absurd rfl hne
  · rintro ⟨hcountable, hsign, hsigners⟩
    have hfits := (Message.fits_compile_iff hcompile).mpr hcountable
    obtain ⟨transaction, htransaction, -⟩ :=
      exists_ofBatch hkey hsign hcompile hfits fun key => hsigners key
    exact ⟨transaction, htransaction⟩

/-- Signing breaks off exactly if it is the payer who signs, and the message is compiled but cannot be
written. -/
theorem ofBatch_eq_error_iff {abort : Abort} : ofBatch batch signer blockhash = .error abort ↔
    abort = .messageTooLong ∧ signer.key = .ok batch.payer ∧
      (∃ message, Message.compile batch.payer batch.instructions blockhash = .ok message) ∧
      ¬ Message.Countable batch.instructions := by
  constructor
  · intro h
    unfold ofBatch at h
    split at h
    · cases h
    · rename_i message hown
      obtain ⟨hkey, hcompile⟩ := compile_eq_ok hown
      split at h
      · cases h
      · rename_i hunfit
        cases h
        exact ⟨rfl, hkey, ⟨message, hcompile⟩, mt (Message.fits_compile_iff hcompile).mpr hunfit⟩
  · rintro ⟨rfl, hkey, ⟨message, hcompile⟩, hlong⟩
    have hunfit := mt (Message.fits_compile_iff hcompile).mp hlong
    rw [ofBatch, compile_of_key hkey, hcompile]
    dsimp only
    rw [if_neg hunfit]

/-- A signer that does not pay is refused before anything is signed. -/
theorem ofBatch_of_key_ne (hkey : signer.key = .ok key) (hne : key ≠ batch.payer) :
    ofBatch batch signer blockhash = .ok (.error (.foreignPayer batch.payer key)) := by
  have hforeign : compile batch signer blockhash = .error (.foreignPayer batch.payer key) := by
    unfold compile
    rw [hkey]
    change (if key ≠ batch.payer then _ else _) = _
    rw [if_pos hne]
    rfl
  rw [ofBatch, hforeign]

/-- Signing is sound and complete where it comes to an end. A signer whose key is not the payer's gets
an error, whatever it and the cosigners would sign. Of the payer's compiled message there is a
transaction exactly if everything in it can be counted, the payer can sign it, and every key that has
to sign is the payer's or a cosigner's; and then it is fully signed. Everything else is an error, but
for a message that is compiled and cannot be counted: there signing breaks off. -/
theorem ofBatch_signs (batch : Batch) (signer : Signer) (blockhash : Blockhash) :
    (∀ key, signer.key = .ok key → key ≠ batch.payer → ∀ sign cosigners,
      ofBatch { batch with cosigners := cosigners } { signer with sign := sign } blockhash =
        .ok (.error (.foreignPayer batch.payer key))) ∧
    (∀ message, signer.key = .ok batch.payer →
      Message.compile batch.payer batch.instructions blockhash = .ok message →
      ((∃ transaction, ofBatch batch signer blockhash = .ok (.ok transaction)) ↔
        Message.Countable batch.instructions ∧ (∃ signature, signer.sign message.bytes = .ok signature) ∧
          ∀ key ∈ message.signerKeys, key ∈ batch.payer :: batch.cosigners.map (·.key))) ∧
    (∀ transaction, ofBatch batch signer blockhash = .ok (.ok transaction) →
      transaction.FullySigned batch signer blockhash) ∧
    ((∃ abort, ofBatch batch signer blockhash = .error abort) ↔ signer.key = .ok batch.payer ∧
      (∃ message, Message.compile batch.payer batch.instructions blockhash = .ok message) ∧
      ¬ Message.Countable batch.instructions) := by
  refine ⟨fun key hkey hne sign cosigners => ofBatch_of_key_ne hkey hne,
    fun message hkey hcompile => exists_ofBatch_iff hkey hcompile,
    fun transaction => fullySigned_ofBatch, ?_⟩
  simp only [ofBatch_eq_error_iff, exists_eq_left]

end Transaction

/-- The pair that pays for the samples. -/
def KeyPair.payingSample : KeyPair := .ofSeed (Octets.filled 32 9)

/-- The pair that signs the samples besides. -/
def KeyPair.cosigningSample : KeyPair := .ofSeed (Octets.filled 32 5)

/-- A batch that its payer and a cosigner have to sign. Another cosigner has the payer's key. -/
def Batch.carrying (data : Bytes) : Batch :=
  { Batch.headed .borrow KeyPair.payingSample.key [{
      program := Octets.filled 32 8
      accounts := [.payer KeyPair.payingSample.key, .witness KeyPair.cosigningSample.key]
      data := data }] with
    cosigners := [KeyPair.payingSample, KeyPair.cosigningSample] }

namespace Batch

/-- Such a batch is compiled, and its payer and cosigners are all that have to sign. -/
theorem exists_compile_carrying (data : Bytes) (blockhash : Blockhash) :
    ∃ message, Message.compile (carrying data).payer (carrying data).instructions blockhash =
        .ok message ∧
      ∀ key ∈ message.signerKeys,
        key ∈ (carrying data).payer :: (carrying data).cosigners.map (·.key) := by
  have hkeys : (Message.listedKeys (carrying data).payer (carrying data).instructions).length ≤
      [KeyPair.payingSample.key, KeyPair.cosigningSample.key, Octets.filled 32 8,
        Address.computeBudgetProgram].length := by
    refine Message.length_listedKeys_le List.mem_cons_self fun use huse => ?_
    simp only [carrying, headed, Message.mentions, Instruction.computeUnitLimit, List.flatMap_cons,
      List.flatMap_nil, List.append_nil, List.cons_append, List.nil_append, List.mem_cons,
      List.not_mem_nil, or_false] at huse
    rcases huse with rfl | rfl | rfl | rfl
    · simp [AccountUse.read]
    · simp [AccountUse.read]
    · simp [AccountUse.payer]
    · simp [AccountUse.witness]
  have hsigned : Message.SignedBy [KeyPair.payingSample.key, KeyPair.cosigningSample.key]
      ((carrying data).instructions.flatMap Message.mentions) := by
    intro key
    simp [carrying, headed, Message.mentions, Instruction.computeUnitLimit]
  obtain ⟨message, hcompile⟩ : ∃ message, Message.compile (carrying data).payer
      (carrying data).instructions blockhash = .ok message :=
    Message.exists_compile_of_length (Nat.lt_of_le_of_lt hkeys (by decide))
  refine ⟨message, hcompile, fun key hmem => ?_⟩
  exact List.mem_cons_of_mem _ ((Message.mem_signerKeys_iff hcompile hsigned).mp hmem)

/-- A batch with one byte of data more than sixteen bits count. -/
def oversized : Batch := .carrying (List.replicate 65536 0)

/-- The sample batch can be written if its data has no more bytes than two bytes can count. -/
private theorem countable_carrying_iff {data : Bytes} :
    Message.Countable (carrying data).instructions ↔ data.length ≤ 65535 := by
  simp [carrying, headed, Message.Countable, Instruction.computeUnitLimit, length_littleEndian]

end Batch

namespace Transaction

/-- A batch with few data becomes a fully signed transaction of its payer, and the cosigner alone
gets none. -/
theorem ofBatch_signs_carrying :
    (∃ transaction,
      ofBatch (.carrying [1, 2, 3]) KeyPair.payingSample.signer (Octets.filled 32 1) =
        .ok (.ok transaction) ∧
      transaction.FullySigned (.carrying [1, 2, 3]) KeyPair.payingSample.signer
        (Octets.filled 32 1)) ∧
    ofBatch (.carrying [1, 2, 3]) KeyPair.cosigningSample.signer (Octets.filled 32 1) =
      .ok (.error (.foreignPayer KeyPair.payingSample.key KeyPair.cosigningSample.key)) := by
  obtain ⟨message, hcompile, hsigners⟩ :=
    Batch.exists_compile_carrying [1, 2, 3] (Octets.filled 32 1)
  obtain ⟨-, hiff, hsigned, -⟩ :=
    ofBatch_signs (.carrying [1, 2, 3]) KeyPair.payingSample.signer (Octets.filled 32 1)
  obtain ⟨transaction, htransaction⟩ := (hiff message rfl hcompile).mpr
    ⟨Batch.countable_carrying_iff.mpr (by decide), ⟨_, rfl⟩, hsigners⟩
  have hne : KeyPair.cosigningSample.key ≠ KeyPair.payingSample.key := by decide +kernel
  obtain ⟨hforeign, -⟩ :=
    ofBatch_signs (.carrying [1, 2, 3]) KeyPair.cosigningSample.signer (Octets.filled 32 1)
  exact ⟨⟨transaction, htransaction, hsigned transaction htransaction⟩, hforeign _ rfl hne _ _⟩

/-- With 65536 bytes of data the message is compiled, the payer can sign whatever it is asked to, and
every key that has to sign is the payer's or a cosigner's. Still there is neither a transaction nor an
error. -/
theorem ofBatch_breaksOff :
    (∃ message, Message.compile Batch.oversized.payer Batch.oversized.instructions
        (Octets.filled 32 1) = .ok message ∧
      ∀ key ∈ message.signerKeys,
        key ∈ Batch.oversized.payer :: Batch.oversized.cosigners.map (·.key)) ∧
    KeyPair.payingSample.signer.Works Batch.oversized.payer ∧
    ofBatch .oversized KeyPair.payingSample.signer (Octets.filled 32 1) =
      .error .messageTooLong := by
  obtain ⟨message, hcompile, hsigners⟩ := Batch.exists_compile_carrying
    (List.replicate 65536 0) (Octets.filled 32 1)
  have hlong : ¬ Message.Countable Batch.oversized.instructions := by
    rw [Batch.oversized, Batch.countable_carrying_iff, List.length_replicate]
    omega
  have hworks : KeyPair.payingSample.signer.Works Batch.oversized.payer :=
    KeyPair.works_signer KeyPair.payingSample
  exact ⟨⟨message, hcompile, hsigners⟩, hworks,
    ofBatch_eq_error_iff.mpr ⟨rfl, hworks.key, ⟨message, hcompile⟩, hlong⟩⟩

end Transaction

end LendingClient
