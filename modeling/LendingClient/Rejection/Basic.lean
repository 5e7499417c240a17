import LendingClient.Rejection.Instruction
import LendingClient.Rejection.Transaction
import LendingClient.Text.Quoted

/-!
# Rejections

Why the ledger refused a transaction: a fault of one instruction, or of the whole. A rejection is
told in two ways: `message` is for people, `code` is its structured form in one line.
-/

namespace LendingClient

/-- Why an instruction was refused. -/
inductive InstructionRejection where
  /-- A fault that carries no detail. -/
  | plain (fault : InstructionFault)
  /-- A number that only the program gives a meaning to. -/
  | custom (number : UInt32)
  /-- The program could not read or write an account's data. -/
  | serialization (detail : String)
deriving DecidableEq

/-- Why the ledger refused a transaction. -/
inductive Rejection where
  /-- A fault that carries no detail. -/
  | plain (fault : TransactionFault)
  /-- The instruction at `index` was refused. -/
  | instruction (index : UInt8) (cause : InstructionRejection)
  /-- The instruction at `index` says again what an earlier one said. -/
  | duplicateInstruction (index : UInt8)
  /-- The account at `index` would keep too little to stay alive. -/
  | insufficientFundsForRent (index : UInt8)
  /-- The program of the account at `index` may not run for the time being. -/
  | programRestricted (index : UInt8)
deriving DecidableEq

/-- A refused instruction in words. -/
def InstructionRejection.message : InstructionRejection → String
  | .plain fault => fault.message
  | .custom number =>
    "custom program error: 0x" ++ String.ofList (Text.hexDigits number.toNat)
  | .serialization detail => s!"Failed to serialize or deserialize account data: {detail}"

/-- A refused instruction as a code. -/
def InstructionRejection.code : InstructionRejection → String
  | .plain fault => fault.code
  | .custom number => s!"Custom({number})"
  | .serialization detail => s!"BorshIoError({Text.quote detail})"

/-- A refused transaction in words. -/
def Rejection.message : Rejection → String
  | .plain fault => fault.message
  | .instruction index cause => s!"Error processing Instruction {index}: {cause.message}"
  | .duplicateInstruction index =>
    s!"Transaction contains a duplicate instruction ({index}) that is not allowed"
  | .insufficientFundsForRent index =>
    s!"Transaction results in an account ({index}) with insufficient funds for rent"
  | .programRestricted index =>
    s!"Execution of the program referenced by account at index {index} is temporarily restricted."

/-- A refused transaction as a code. -/
def Rejection.code : Rejection → String
  | .plain fault => fault.code
  | .instruction index cause => s!"InstructionError({index}, {cause.code})"
  | .duplicateInstruction index => s!"DuplicateInstruction({index})"
  | .insufficientFundsForRent index =>
    s!"InsufficientFundsForRent \x7b account_index: {index} \x7d"
  | .programRestricted index =>
    s!"ProgramExecutionTemporarilyRestricted \x7b account_index: {index} \x7d"

end LendingClient
