import LendingClient.Digest.Sha512
import LendingClient.Edwards.Point

/-!
# Ed25519 signatures

A key pair grows from a seed of 32 bytes: the first half of the seed's digest, with its lowest and
highest bits fixed, is the secret factor, and the public key is that multiple of the base point. A
signature holds the multiple of the base point by a number drawn from the message, and the sum by
which anyone who knows the public key can check it.
-/

namespace LendingClient.Ed25519

open Edwards

/-- The order of the base point. -/
def groupOrder : Nat := Nat.pow 2 252 + 27742317777372353535851937790883648493

/-- A digest taken as a factor. -/
def factorOf (parts : List Bytes) : Nat :=
  ofLittleEndian (Sha512.digest parts.flatten).bytes % groupOrder

/-- The secret factor that a seed's digest holds: a multiple of eight with bit 254 set. -/
def secretFactor (seed : Octets 32) : Nat :=
  ofLittleEndian ((Sha512.digest seed.bytes).bytes.take 32) % Nat.pow 2 254 / 8 * 8 +
    Nat.pow 2 254

/-- The bytes that a seed adds to each message before a factor is drawn from it. -/
def salt (seed : Octets 32) : Bytes :=
  (Sha512.digest seed.bytes).bytes.drop 32

/-- The public key that grows from a seed. -/
def publicKey (seed : Octets 32) : Octets 32 :=
  ⟨(Point.base.multiple (bits 256 (secretFactor seed))).encode, length_littleEndian _ _⟩

/-- The signature of a message by a seed and its public key. -/
def sign (seed key : Octets 32) (message : Bytes) : Octets 64 :=
  let drawn := factorOf [salt seed, message]
  let point := (Point.mul drawn Point.base).encode
  let challenge := factorOf [point, key.bytes, message]
  let sum := (drawn + challenge * secretFactor seed) % groupOrder
  ⟨point ++ littleEndian 32 sum, by simp [point, Point.encode]⟩

/-- Whether a signature is one of a message by the holder of a public key. -/
def verify (key : Octets 32) (message : Bytes) (signature : Octets 64) : Bool :=
  let point := signature.bytes.take 32
  let sum := ofLittleEndian (signature.bytes.drop 32)
  match Point.decode? key with
  | none => false
  | some holder =>
    let challenge := factorOf [point, key.bytes, message]
    sum < groupOrder &&
      (Point.add (Point.mul sum Point.base) (Point.mul challenge holder.neg)).encode == point

end LendingClient.Ed25519
