import LendingClient.Key

/-!
# Well-known addresses

Programs and system accounts that are the same everywhere on the ledger.
-/

namespace LendingClient.Address

/-- The system program, which makes accounts and moves the ledger's own coin. -/
def systemProgram : Key := Octets.filled 32 0

/-- The program of classic tokens. -/
def tokenProgram : Key :=
  ⟨[6, 221, 246, 225, 215, 101, 161, 147, 217, 203, 225, 70, 206, 235, 121, 172, 28, 180, 133,
    237, 95, 91, 55, 145, 58, 140, 245, 133, 126, 255, 0, 169], rfl⟩

/-- The program of tokens with further data. -/
def newTokenProgram : Key :=
  ⟨[6, 221, 246, 225, 238, 117, 143, 222, 24, 66, 93, 188, 228, 108, 205, 218, 182, 26, 252, 77,
    131, 185, 13, 39, 254, 189, 249, 40, 216, 161, 139, 252], rfl⟩

/-- The program that makes the token account of a holder. -/
def holderProgram : Key :=
  ⟨[140, 151, 37, 143, 78, 36, 137, 241, 187, 61, 16, 41, 20, 142, 13, 131, 11, 90, 19, 153,
    218, 255, 16, 132, 4, 142, 123, 216, 219, 233, 248, 89], rfl⟩

/-- The program that keeps the names of tokens. -/
def metadataProgram : Key :=
  ⟨[11, 112, 101, 177, 227, 209, 124, 69, 56, 157, 82, 127, 107, 4, 195, 205, 88, 184, 108, 115,
    26, 160, 253, 181, 73, 182, 209, 188, 3, 248, 41, 70], rfl⟩

/-- The system account with the price of storage. -/
def rent : Key :=
  ⟨[6, 167, 213, 23, 25, 44, 92, 81, 33, 140, 201, 76, 61, 74, 241, 127, 88, 218, 238, 8, 155,
    161, 253, 68, 227, 219, 217, 138, 0, 0, 0, 0], rfl⟩

/-- The system account with the instructions of the running transaction. -/
def instructions : Key :=
  ⟨[6, 167, 213, 23, 24, 123, 209, 102, 53, 218, 212, 4, 85, 253, 194, 192, 193, 36, 198, 143,
    33, 86, 117, 165, 219, 186, 203, 95, 8, 0, 0, 0], rfl⟩

/-- The program that takes the limits of a transaction. -/
def computeBudgetProgram : Key :=
  ⟨[3, 6, 70, 111, 229, 33, 23, 50, 255, 236, 173, 186, 114, 195, 155, 231, 188, 140, 229, 187,
    197, 247, 18, 107, 44, 67, 155, 58, 64, 0, 0, 0], rfl⟩

end LendingClient.Address
