import LendingClient.Json.Basic
import LendingClient.Rejection.Basic

/-!
# Rejections as JSON

A node sends a rejection as its code, and one that carries details as an object with the code as its
only member.
-/

namespace LendingClient

/-- A number below a limit. -/
def Json.natBelow? (limit : Nat) (json : Json) : Option Nat := do
  let value ← json.number?
  if 0 ≤ value ∧ value < limit then return value.toNat else none

/-- Why an instruction was refused. -/
def InstructionRejection.ofJson? : Json → Option InstructionRejection
  | .text code => (InstructionFault.ofCode? code).map .plain
  | .object [("Custom", number)] =>
    (number.natBelow? UInt32.size).map fun number => .custom (UInt32.ofNat number)
  | .object [("BorshIoError", detail)] => detail.text?.map .serialization
  | .object [(code, .null)] => (InstructionFault.ofCode? code).map .plain
  | _ => none

/-- The place of an instruction or an account. -/
def Json.place? (json : Json) : Option UInt8 :=
  (json.natBelow? 256).map UInt8.ofNat

/-- The place of an account that is told as the only detail. -/
def Json.accountPlace? : Json → Option UInt8
  | .list [index] => index.place?
  | details => (details.member? "account_index").bind Json.place?

/-- Why a transaction was refused. -/
def Rejection.ofJson? : Json → Option Rejection
  | .text code => (TransactionFault.ofCode? code).map .plain
  | .object [("InstructionError", .list [index, cause])] => do
    return .instruction (← index.place?) (← InstructionRejection.ofJson? cause)
  | .object [("DuplicateInstruction", index)] => index.place?.map .duplicateInstruction
  | .object [("InsufficientFundsForRent", details)] =>
    details.accountPlace?.map .insufficientFundsForRent
  | .object [("ProgramExecutionTemporarilyRestricted", details)] =>
    details.accountPlace?.map .programRestricted
  | .object [(code, .null)] => (TransactionFault.ofCode? code).map .plain
  | _ => none

end LendingClient
