import LendingClient.Digest.Sha256
import LendingClient.Edwards.Point
import LendingClient.Error.Basic

/-!
# Derived addresses

A program's accounts have addresses that nobody can sign for: digests of some seeds, one further
byte, the program's key and a fixed marker. About half of all digests are points of the curve and so
could be public keys; the further byte is counted down from 255 until the digest is none.
-/

namespace LendingClient.Address

/-- What is hashed behind the seeds of every derived address. -/
def marker : Bytes := Text.utf8 "ProgramDerivedAddress"

/-- The longest seed. -/
def longestSeed : Nat := 32

/-- The greatest number of seeds. -/
def mostSeeds : Nat := 15

/-- The bytes that are hashed for one further byte. -/
def preimage (program : Key) (seeds : List Bytes) (bump : UInt8) : Bytes :=
  seeds.flatten ++ bump :: program.bytes ++ marker

/-- The digest that one further byte gives. -/
def candidate (program : Key) (seeds : List Bytes) (bump : UInt8) : Key :=
  Sha256.digest (preimage program seeds bump)

/-- The address that one further byte gives, unless it lies on the curve. -/
def offCurve? (program : Key) (seeds : List Bytes) (bump : UInt8) : Option (Key × UInt8) :=
  let address := candidate program seeds bump
  if Edwards.onCurve address then none else some (address, bump)

/-- The address derived from seeds, and its further byte: the first one off the curve, counting down
from 255 to one. No seeds are known that have none; the last digest would stand in for it. -/
def find (program : Key) (seeds : List Bytes) : Key × UInt8 :=
  ((List.range 255).findSome? fun step => offCurve? program seeds (255 - UInt8.ofNat step)).getD
    (candidate program seeds 1, 1)

/-- The address derived from seeds that may be too long or too many. -/
def derive (program : Key) (seeds : List Bytes) : Except Abort (Key × UInt8) :=
  if mostSeeds < seeds.length then .error .tooManySeeds
  else if seeds.any (longestSeed < ·.length) then .error .seedTooLong
  else .ok (find program seeds)

end LendingClient.Address
