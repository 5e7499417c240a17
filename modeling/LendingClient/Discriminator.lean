import LendingClient.Digest.Sha256
import LendingClient.Text.Utf8

/-!
# Discriminators

The program tells its accounts and its instructions apart by the first eight bytes of their data:
the beginning of the digest of a name within its space of names.
-/

namespace LendingClient

/-- The eight bytes that stand for `name` among the names of `space`. -/
def discriminator (space name : String) : Bytes :=
  (Sha256.digest (Text.utf8 (space ++ ":" ++ name))).bytes.take 8

/-- The space of the names of accounts. -/
def accountSpace : String := "account"

/-- The space of the names of instructions. -/
def instructionSpace : String := "global"

/-- A discriminator has eight bytes. -/
theorem length_discriminator (space name : String) : (discriminator space name).length = 8 := by
  simp [discriminator, (Sha256.digest _).length_bytes]

end LendingClient
