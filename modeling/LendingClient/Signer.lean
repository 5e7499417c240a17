import LendingClient.Edwards.Ed25519
import LendingClient.Key

/-!
# Signers

A transaction is signed by whoever pays for it, and by every key that it makes. A pair of keys signs
by itself; a signer may also be something outside that can fail to say its key, or fail to sign.
-/

namespace LendingClient

/-- A secret seed and the public key that belongs to it. -/
structure KeyPair where
  /-- What the secret is made from. -/
  seed : Octets 32
  /-- The public key. -/
  key : Key
  /-- The key is the seed's. -/
  key_eq : key = Ed25519.publicKey seed

namespace KeyPair

/-- The pair that belongs to a seed. -/
def ofSeed (seed : Octets 32) : KeyPair :=
  ⟨seed, Ed25519.publicKey seed, rfl⟩

/-- The pair's signature of a message. -/
def sign (pair : KeyPair) (message : Bytes) : Signature :=
  Ed25519.sign pair.seed pair.key message

end KeyPair

/-- Whoever pays for a transaction. Either answer may fail, with a reason in words. -/
structure Signer where
  /-- The signer's public key. -/
  key : Except String Key
  /-- The signer's signature of a message. -/
  sign : Bytes → Except String Signature

/-- A pair of keys as a signer that never fails. -/
def KeyPair.signer (pair : KeyPair) : Signer where
  key := .ok pair.key
  sign message := .ok (pair.sign message)

end LendingClient
