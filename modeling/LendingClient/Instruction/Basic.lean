import LendingClient.Address.Known
import LendingClient.Bytes.Endian

/-!
# Instructions

An instruction names a program, the accounts that the program may use, in the order in which the
program expects them, and data that the program reads.
-/

namespace LendingClient

/-- An account that an instruction uses. -/
structure AccountUse where
  /-- The account's address. -/
  key : Key
  /-- Whether the account has to sign. -/
  signs : Bool
  /-- Whether the account may be changed. -/
  writable : Bool
deriving DecidableEq

namespace AccountUse

/-- An account that signs and may be changed. -/
def payer (key : Key) : AccountUse := ⟨key, true, true⟩

/-- An account that signs but is only read. -/
def witness (key : Key) : AccountUse := ⟨key, true, false⟩

/-- An account that may be changed. -/
def changed (key : Key) : AccountUse := ⟨key, false, true⟩

/-- An account that is only read. -/
def read (key : Key) : AccountUse := ⟨key, false, false⟩

end AccountUse

/-- A call of a program. -/
structure Instruction where
  /-- The program's key. -/
  program : Key
  /-- The accounts, in the program's order. -/
  accounts : List AccountUse
  /-- What the program reads. -/
  data : Bytes
deriving DecidableEq

namespace Instruction

/-- Asks for a limit on the computing of a transaction. -/
def computeUnitLimit (units : UInt32) : Instruction where
  program := Address.computeBudgetProgram
  accounts := []
  data := 2 :: littleEndian 4 units.toNat

/-- Makes the token account `account` of `owner` for `mint` unless it is there, paid by `payer`. -/
def makeHolder (payer account owner mint tokenProgram : Key) : Instruction where
  program := Address.holderProgram
  accounts := [
    .payer payer,
    .changed account,
    .read owner,
    .read mint,
    .read Address.systemProgram,
    .read tokenProgram]
  data := [1]

end Instruction

end LendingClient
