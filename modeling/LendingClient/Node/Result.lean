import LendingClient.Bytes.Base58
import LendingClient.Bytes.Base64
import LendingClient.Client.Settings
import LendingClient.Json.Decode
import LendingClient.Ledger.Call
import LendingClient.Node.Rejection
import LendingClient.Text.Version

/-!
# Results of a node

The forms in which a node tells about block hashes, signatures, accounts and trial runs. All of a
result has to have its form, also the parts that nobody uses, for a result in another form may be one
of another kind.
-/

namespace LendingClient

namespace Json

variable {α : Type}

/-- The version of a node's interface. -/
def asVersion (json : Json) : Decode String := do
  let text ← json.asText
  if Text.isVersion text.toList then return text else throw (.noForm "Version")

/-- Where a result was found: the slot. -/
def asContext (json : Json) : Decode UInt64 := do
  let json ← json.asStructure "RpcResponseContext" ["slot", "apiVersion"]
  let _ ← json.field? "apiVersion" asVersion
  json.field "slot" asU64

/-- A result that comes with the slot it was found at; `decode` is given an object whose member
`value` is the result. -/
def withContext (decode : Json → Decode α) (json : Json) : Decode α := do
  let json ← json.asStructure "Response" ["context", "value"]
  let _ ← json.field "context" asContext
  decode json

/-- The value of a result that comes with the slot it was found at. -/
def asValue (decode : Json → Decode α) : Json → Decode α :=
  withContext (·.field "value" decode)

/-- A block hash as text, with the last block height at which it will do. -/
def asBlockhash (json : Json) : Decode String := do
  let json ← json.asStructure "RpcBlockhash" ["blockhash", "lastValidBlockHeight"]
  let text ← json.field "blockhash" asText
  let _ ← json.field "lastValidBlockHeight" asU64
  return text

/-- Why a transaction was refused. -/
def asRejection (json : Json) : Decode Rejection :=
  orElse (.noForm "TransactionError") (Rejection.ofJson? json)

end Json

/-- What a node says about a signature. -/
structure SignatureStatus where
  /-- How many blocks confirm it; none once it is final. -/
  confirmations : Option UInt64
  verdict : Verdict
  /-- How sure the node is. -/
  reached : Option Commitment

/-- Whether a status is sure enough. A node that does not say how sure it is has at least two
blocks. -/
def SignatureStatus.satisfies (status : SignatureStatus) : Commitment → Bool
  | .processed => true
  | .confirmed =>
    match status.reached with
    | some reached => reached ≠ .processed
    | none => status.confirmations.all (1 < ·)
  | .finalized => status.confirmations.isNone

namespace Json

/-- How sure a node is, by name. -/
def asCommitment (json : Json) : Decode Commitment := do
  let name ← json.asName
  orElse (.unknown name) (Commitment.ofName? name)

/-- How a transaction ended. -/
def asVerdict : Json → Decode Verdict
  | .object [("Ok", .null)] => .ok .landed
  | .object [("Err", why)] => return .refused (← why.asRejection)
  | json => .error (.unexpected json "enum Result")

/-- What a node says about a signature. -/
def asStatus (json : Json) : Decode SignatureStatus := do
  let json ← json.asStructure "TransactionStatus"
    ["slot", "confirmations", "status", "err", "confirmationStatus"]
  let _ ← json.field "slot" asU64
  let confirmations ← json.field? "confirmations" asU64
  let verdict ← json.field "status" asVerdict
  let _ ← json.field? "err" asRejection
  let reached ← json.field? "confirmationStatus" asCommitment
  return ⟨confirmations, verdict, reached⟩

/-- Data of an account that a node has interpreted. -/
def asInterpreted (json : Json) : Decode Unit := do
  let json ← json.asStructure "ParsedAccount" ["program", "parsed", "space"]
  let _ ← json.field "program" asText
  let _ ← json.field "parsed" .ok
  let _ ← json.field "space" asU64

/-- Data of an account as text, with the name of its encoding; none if it cannot be decoded. -/
def asEncoded : Json → Decode (Option Bytes)
  | .list [.text blob, encoding] => do
    match ← encoding.asName with
    | "base58" => return Base58.decode? blob
    | "base64" => return Base64.decode? blob
    | "binary" | "jsonParsed" | "base64+zstd" => return none
    | name => throw (.unknown name)
  | json => .error (.unexpected json "a tuple of size 2")

/-- The data of an account in one of its forms, none if it cannot be decoded. -/
def asData : Json → Decode (Option Bytes) :=
  asAny "untagged enum UiAccountData" [fun json => return Base58.decode? (← json.asText),
    fun json => return (fun _ => none) (← json.asInterpreted), asEncoded]

/-- The data of an account. One whose data or owner cannot be decoded counts as none. -/
def asAccount (json : Json) : Decode (Option Bytes) := do
  let json ← json.asStructure "UiAccount"
    ["lamports", "data", "owner", "executable", "rentEpoch", "space"]
  let _ ← json.field "lamports" asU64
  let data ← json.field "data" asData
  let owner ← json.field "owner" asText
  let _ ← json.field "executable" asBool
  let _ ← json.field "rentEpoch" asU64
  let _ ← json.field? "space" asU64
  return if (Octets.ofText? 32 owner).isSome then data else none

/-- What a program gave back. -/
def asReturned (json : Json) : Decode Unit := do
  let json ← json.asStructure "UiTransactionReturnData" ["programId", "data"]
  let _ ← json.field "programId" asText
  json.field "data" fun
    | .list [.text _, encoding] => do
      let name ← encoding.asName
      if name = "base64" then return () else throw (.unknown name)
    | json => throw (.unexpected json "a tuple of size 2")

/-- An instruction whose program and accounts are told by their places. -/
def asPlacedInstruction (json : Json) : Decode Unit := do
  let json ← json.asStructure "UiCompiledInstruction"
    ["programIdIndex", "accounts", "data", "stackHeight"]
  let _ ← json.field "programIdIndex" asU8
  let _ ← json.field "accounts" (asList asU8)
  let _ ← json.field "data" asText
  let _ ← json.field? "stackHeight" asU32

/-- An instruction that a node has interpreted. -/
def asInterpretedInstruction (json : Json) : Decode Unit := do
  let json ← json.asStructure "ParsedInstruction"
    ["program", "programId", "parsed", "stackHeight"]
  let _ ← json.field "program" asText
  let _ ← json.field "programId" asText
  let _ ← json.field "parsed" .ok
  let _ ← json.field? "stackHeight" asU32

/-- An instruction whose program and accounts are told by their keys. -/
def asKeyedInstruction (json : Json) : Decode Unit := do
  let json ← json.asStructure "UiPartiallyDecodedInstruction"
    ["programId", "accounts", "data", "stackHeight"]
  let _ ← json.field "programId" asText
  let _ ← json.field "accounts" (asList asText)
  let _ ← json.field "data" asText
  let _ ← json.field? "stackHeight" asU32

/-- The instructions that an instruction called. -/
def asInnerInstructions (json : Json) : Decode Unit := do
  let json ← json.asStructure "UiInnerInstructions" ["index", "instructions"]
  let _ ← json.field "index" asU8
  let _ ← json.field "instructions" (asList (asAny "untagged enum UiInstruction"
    [asPlacedInstruction, asInterpretedInstruction, asKeyedInstruction]))

/-- What came of a trial run. -/
def asSimulation (json : Json) : Decode Simulation := do
  let json ← json.asStructure "RpcSimulateTransactionResult"
    ["err", "logs", "accounts", "unitsConsumed", "loadedAccountsDataSize", "returnData",
      "innerInstructions", "replacementBlockhash"]
  let _ ← json.field? "accounts" (asList (asOptional asAccount))
  let rejection ← json.field? "err" asRejection
  let _ ← json.field? "innerInstructions" (asList asInnerInstructions)
  let _ ← json.field? "loadedAccountsDataSize" asU32
  let logs ← json.fieldD "logs" (asList asText) []
  let _ ← json.field? "replacementBlockhash" asBlockhash
  let _ ← json.field? "returnData" asReturned
  let units ← json.field? "unitsConsumed" asU64
  return ⟨rejection.map (·.code), logs, units⟩

end Json

end LendingClient
