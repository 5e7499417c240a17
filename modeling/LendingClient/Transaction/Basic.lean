import LendingClient.Transaction.Message

/-!
# Transactions

A transaction is a message with one signature for each key that has to sign, in the order of the
keys. The first signature, the payer's, names the transaction.
-/

namespace LendingClient

/-- A signed message. -/
structure Transaction where
  signatures : List Signature
  message : Message
deriving DecidableEq

namespace Transaction

/-- The signature that names the transaction. -/
def signature? (transaction : Transaction) : Option Signature :=
  transaction.signatures.head?

/-- A transaction in bytes. -/
def bytes (transaction : Transaction) : Bytes :=
  Message.shortCount transaction.signatures.length ++
    transaction.signatures.flatMap (·.bytes) ++ transaction.message.bytes

/-- Whether each signature is one of the message by its key. -/
def verify (transaction : Transaction) : List Bool :=
  (transaction.signatures.zip transaction.message.keys).map fun (signature, key) =>
    Ed25519.verify key transaction.message.bytes signature

/-- The signature of one key: the payer signs for its own, and a cosigner for any other. -/
def signFor (signer : Signer) (payer : Key) (cosigners : List KeyPair) (message : Bytes)
    (key : Key) : Except SignFault Signature :=
  if key = payer then (signer.sign message).mapError .signer
  else match cosigners.find? (·.key = key) with
    | some pair => .ok (pair.sign message)
    | none => .error (.noSigner key)

/-- The message of a batch, if it is the signer who pays for it. -/
def compile (batch : Batch) (signer : Signer) (blockhash : Blockhash) :
    Except SignFault Message := do
  let key ← signer.key.mapError SignFault.signer
  if key ≠ batch.payer then throw (.foreignPayer batch.payer key)
  Message.compile batch.payer batch.instructions blockhash

/-- Signs the message of a batch for each key that has to sign, in their order. -/
def sign (batch : Batch) (signer : Signer) (message : Message) : Except SignFault Transaction := do
  let signatures ← message.signerKeys.mapM
    (signFor signer batch.payer batch.cosigners message.bytes)
  return ⟨signatures, message⟩

/-- Compiles a batch and signs it. A message that cannot be written ends the run. -/
def ofBatch (batch : Batch) (signer : Signer) (blockhash : Blockhash) :
    Except Abort (Except SignFault Transaction) :=
  match compile batch signer blockhash with
  | .error fault => .ok (.error fault)
  | .ok message =>
    if message.fits then .ok (sign batch signer message) else .error .messageTooLong

end Transaction

end LendingClient
