import LendingClient.Proofs.Transaction.Keys

/-!
# The size of a transaction

A transaction is sent in one packet, and nothing checks its size before. Its bytes are those of its
signatures and keys, each of one length, those of its instructions, and a few counts. There are no
more keys than in any list that has all that are named, and no more signatures than the payer and
the cosigners can give; so the size of a batch is known before it is signed.
-/

namespace LendingClient

namespace Message

private theorem length_shortCount {count : Nat} (h : count < 128) :
    (shortCount count).length = 1 := by
  rw [shortCount, if_pos h]
  rfl

private theorem length_shortCount_le_two {count : Nat} (h : count < 16384) :
    (shortCount count).length ≤ 2 := by
  by_cases hsmall : count < 128
  · have hone := length_shortCount hsmall
    omega
  · rw [shortCount, if_neg hsmall, if_pos h]
    exact Nat.le_refl 2

/-- Byte strings of one length, written one after the other. -/
theorem length_flatMap_bytes {n : Nat} (values : List (Octets n)) :
    (values.flatMap (·.bytes)).length = n * values.length := by
  induction values with
  | nil => rfl
  | cons value values ih =>
    rw [List.flatMap_cons, List.length_append, ih, value.length_bytes, List.length_cons,
      Nat.mul_succ, Nat.add_comm]

end Message

namespace Instruction

/-- How many bytes an instruction takes in a message. -/
def size (instruction : Instruction) : Nat :=
  1 + (Message.shortCount instruction.accounts.length).length + instruction.accounts.length +
    (Message.shortCount instruction.data.length).length + instruction.data.length

/-- An instruction takes four bytes at most besides its accounts and its data, if it has few
accounts. -/
theorem size_le {program : Key} {accounts : List AccountUse} {data : Bytes}
    (haccounts : accounts.length < 128) (hdata : data.length < 16384) :
    size ⟨program, accounts, data⟩ ≤ 4 + accounts.length + data.length := by
  have hcountAccounts := Message.length_shortCount haccounts
  have hcountData := Message.length_shortCount_le_two hdata
  rw [size]
  dsimp only
  omega

/-- The limit on computing takes eight bytes. -/
theorem size_computeUnitLimit {units : UInt32} : (computeUnitLimit units).size = 8 := by
  have hunits : (littleEndian 4 units.toNat).length = 4 := length_littleEndian 4 _
  have hdata : (computeUnitLimit units).data.length = 5 := by
    rw [computeUnitLimit, List.length_cons, hunits]
  have haccounts : (computeUnitLimit units).accounts.length = 0 := rfl
  have hcounts : (Message.shortCount 5).length = 1 ∧ (Message.shortCount 0).length = 1 :=
    ⟨Message.length_shortCount (by omega), Message.length_shortCount (by omega)⟩
  rw [size, hdata, haccounts, hcounts.1, hcounts.2]

/-- To make an account for a token takes at most eleven bytes. -/
theorem size_makeHolder_le {payer account holder mint program : Key} :
    (makeHolder payer account holder mint program).size ≤ 11 :=
  size_le (by simp) (by simp)

/-- How many bytes several instructions take. -/
def sizes : List Instruction → Nat
  | [] => 0
  | instruction :: instructions => instruction.size + sizes instructions

private theorem size_le_sizes {instruction : Instruction} {instructions : List Instruction}
    (hmem : instruction ∈ instructions) : instruction.size ≤ sizes instructions := by
  induction instructions with
  | nil => cases hmem
  | cons first instructions ih =>
    rw [sizes]
    rcases List.mem_cons.mp hmem with rfl | hmem
    · exact Nat.le_add_right _ _
    · have hle := ih hmem
      omega

end Instruction

namespace Message

variable {payer : Key} {instructions : List Instruction} {blockhash : Blockhash} {message : Message}

/-- A compiled instruction has as many bytes as its size says. -/
private theorem length_bytes_compileInstruction (keys : List Key) (instruction : Instruction) :
    (CompiledInstruction.bytes (compileInstruction keys instruction)).length =
      instruction.size := by
  simp only [compileInstruction, CompiledInstruction.bytes, Instruction.size, List.length_append,
    List.length_cons, List.length_map]
  omega

/-- Instructions take as many bytes with places for keys as their sizes say. -/
theorem length_bytes_instructions (keys : List Key) (instructions : List Instruction) :
    ((instructions.map (compileInstruction keys)).flatMap CompiledInstruction.bytes).length =
      Instruction.sizes instructions := by
  induction instructions with
  | nil => rfl
  | cons instruction instructions ih =>
    rw [List.map_cons, List.flatMap_cons, List.length_append, length_bytes_compileInstruction, ih,
      Instruction.sizes]

/-- The bytes of a compiled message: its header and block hash, the keys behind their count, and the
instructions behind theirs. -/
private theorem length_bytes_compile (h : compile payer instructions blockhash = .ok message) :
    message.bytes.length = 37 + (shortCount (listedKeys payer instructions).length).length +
      32 * (listedKeys payer instructions).length + (shortCount instructions.length).length +
      Instruction.sizes instructions := by
  have hkeys : ((listedKeys payer instructions).flatMap (·.bytes)).length =
      32 * (listedKeys payer instructions).length := length_flatMap_bytes _
  have hblockhash := message.blockhash.length_bytes
  have hbodies := length_bytes_instructions (listedKeys payer instructions) instructions
  have hzero : (shortCount 0).length = 1 := length_shortCount (by decide)
  rw [bytes, keys_compile h, instructions_compile h]
  simp only [List.length_append, List.length_cons, List.length_nil, List.length_map]
  omega

end Message

/-- How many bytes a packet holds. -/
def Transaction.packetSize : Nat := 1232

namespace Batch

variable {batch : Batch} {names : List Key} {signer : Signer} {blockhash : Blockhash}
  {message : Message} {transaction : Transaction}

/-- A batch is small enough for a packet, as far as can be told from a list that has all of its
keys: two bytes are the counts of signatures and keys, 37 the version, the header, the block hash
and the count of lookups, and one is the count of instructions. -/
structure Compact (batch : Batch) (names : List Key) : Prop where
  payer : batch.payer ∈ names
  named : ∀ use ∈ batch.instructions.flatMap Message.mentions, use.key ∈ names
  few : batch.instructions.length < 128
  size : 40 + 64 * (1 + batch.cosigners.length) + 32 * names.length +
    Instruction.sizes batch.instructions ≤ Transaction.packetSize

/-- A compact batch lists no more keys than it names. -/
private theorem Compact.length_keys_le (h : batch.Compact names) :
    (Message.listedKeys batch.payer batch.instructions).length ≤ names.length :=
  Message.length_listedKeys_le h.payer h.named

/-- A compact batch names fewer than 128 keys. -/
private theorem Compact.length_names_lt (h : batch.Compact names) : names.length < 128 := by
  have hsize := h.size
  unfold Transaction.packetSize at hsize
  omega

/-- The message of a compact batch can always be written. -/
theorem Compact.exists_compile (h : batch.Compact names) (blockhash : Blockhash) :
    ∃ message, Message.compile batch.payer batch.instructions blockhash = .ok message := by
  have hkeys := h.length_keys_le
  have hnames := h.length_names_lt
  exact Message.exists_compile_of_length (by omega)

/-- No instruction of a compact batch is longer than a packet. -/
theorem Compact.size_le (h : batch.Compact names) {instruction : Instruction}
    (hmem : instruction ∈ batch.instructions) : instruction.size ≤ Transaction.packetSize := by
  have hsum := Instruction.size_le_sizes hmem
  have hsize := h.size
  omega

/-- All counts of the message of a compact batch can be written. -/
theorem Compact.fits (h : batch.Compact names)
    (hcompile : Message.compile batch.payer batch.instructions blockhash = .ok message) :
    message.fits = true := by
  have hfew := h.few
  rw [Message.fits_compile_iff hcompile]
  refine ⟨by omega, fun instruction hmem => ?_⟩
  have hsize := h.size_le hmem
  unfold Instruction.size Transaction.packetSize at hsize
  omega

/-- Signing a compact batch never breaks off. -/
theorem Compact.exists_result (h : batch.Compact names) (signer : Signer)
    (blockhash : Blockhash) : ∃ result, Transaction.ofBatch batch signer blockhash = .ok result := by
  unfold Transaction.ofBatch
  cases hcompile : Transaction.compile batch signer blockhash with
  | error fault => exact ⟨.error fault, rfl⟩
  | ok message =>
    have hfits := h.fits (Transaction.compile_eq_ok hcompile).2
    dsimp only
    rw [if_pos hfits]
    exact ⟨_, rfl⟩

/-- There are no more signatures than the payer and the cosigners can give. -/
theorem length_signatures_le
    (h : Transaction.ofBatch batch signer blockhash = .ok (.ok transaction)) :
    transaction.signatures.length ≤ 1 + batch.cosigners.length := by
  have hcompile := (Transaction.compile_eq_ok (Transaction.ofBatch_eq_ok h).1).2
  have hsubset := Transaction.signerKeys_subset_of_ofBatch h
  have hle := ((Message.nodup_signerKeys hcompile).subperm hsubset).length_le
  rw [List.length_cons, List.length_map] at hle
  rw [Transaction.length_signatures_ofBatch h]
  omega

/-- The transaction of a compact batch fits in a packet. -/
theorem Compact.length_bytes_le (h : batch.Compact names)
    (hbatch : Transaction.ofBatch batch signer blockhash = .ok (.ok transaction)) :
    transaction.bytes.length ≤ Transaction.packetSize := by
  have hcompile := (Transaction.compile_eq_ok (Transaction.ofBatch_eq_ok hbatch).1).2
  have hmessage := Message.length_bytes_compile hcompile
  have hsignatures : (transaction.signatures.flatMap (·.bytes)).length =
      64 * transaction.signatures.length := Message.length_flatMap_bytes _
  have hkeys := h.length_keys_le
  have hnames := h.length_names_lt
  have hsigned := length_signatures_le hbatch
  have hsize := h.size
  unfold Transaction.packetSize at hsize ⊢
  -- Below 128 each count takes one byte.
  have hcountSignatures : (Message.shortCount transaction.signatures.length).length = 1 :=
    Message.length_shortCount (by omega)
  have hcountKeys : (Message.shortCount
      (Message.listedKeys batch.payer batch.instructions).length).length = 1 :=
    Message.length_shortCount (by omega)
  have hcountInstructions : (Message.shortCount batch.instructions.length).length = 1 :=
    Message.length_shortCount h.few
  rw [Transaction.bytes, List.length_append, List.length_append]
  omega

end Batch

end LendingClient
