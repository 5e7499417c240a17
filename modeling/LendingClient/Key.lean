import LendingClient.Bytes.Base58

/-!
# Keys, block hashes and signatures

Accounts, programs and signers are named by keys of 32 bytes. All of them are shown in base 58.
-/

namespace LendingClient

/-- The name of an account, a program or a signer. -/
abbrev Key := Octets 32

/-- The hash of a recent block, which a transaction is bound to. -/
abbrev Blockhash := Octets 32

/-- The signature of a message. -/
abbrev Signature := Octets 64

namespace Octets

/-- The base-58 text of a byte string. -/
def text {n : Nat} (value : Octets n) : String :=
  Base58.encode value.bytes

/-- The byte string of length `n` that a base-58 text stands for. -/
def ofText? (n : Nat) (text : String) : Option (Octets n) :=
  (Base58.decode? text).bind (ofBytes? n)

end Octets

/-- The key of zeros, which stands for a key that is not set. -/
def Key.unset : Key := Octets.filled 32 0

/-- A key, unless it is the one that stands for none. -/
def Key.set? (key : Key) : Option Key :=
  if key = Key.unset then none else some key

end LendingClient
