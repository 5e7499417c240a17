import LendingClient.Ledger.Task
import LendingClient.Node.Reply

/-!
# Questions to a node

A question is a request and what its result means. A block hash, a transaction, a signature and an
account are asked about in the forms that nodes understand; results come with the slot that they were
found at, which is checked and not used.
-/

namespace LendingClient

/-- A request to a node. -/
structure NodeRequest where
  method : String
  params : List Json

/-- A request, and what its result means. -/
structure Question (α : Type) where
  request : NodeRequest
  interpret : Except NodeFault Json → Plan α

namespace Question

variable {α : Type}

/-- A value, unless the node is at fault. -/
def unlessFault (value : Except NodeFault α) : Plan α :=
  Plan.ofExcept (value.mapError fun fault => .ledger fault.message)

/-- A value, unless the answer has another form. -/
def unlessMismatch (value : Json.Decode α) : Except NodeFault α :=
  value.mapError .mismatch

/-- A question whose result is decoded and then looked into. -/
def decoding {β : Type} (method : String) (params : List Json) (decode : Json → Json.Decode β)
    (look : β → Except NodeFault α) : Question α where
  request := ⟨method, params⟩
  interpret answer := unlessFault do
    let result ← answer
    look (← unlessMismatch (decode result))

/-- The setting that says how sure an answer has to be. -/
def sure (commitment : Commitment) : String × Json :=
  ("commitment", .text commitment.name)

/-- The hash of the latest block. -/
def blockhash (commitment : Commitment) : Question Blockhash :=
  decoding "getLatestBlockhash" [.object [sure commitment]]
    (Json.asValue Json.asBlockhash) fun text =>
      match Octets.ofText? 32 text with
      | some hash => .ok hash
      | none => .error .noBlockhash

/-- A transaction as a node takes it. -/
def wire (transaction : Transaction) : Json :=
  .text (Base64.encode transaction.bytes)

/-- The signature that a text of at most 88 characters stands for. -/
def readSignature (text : String) : Except SignatureFault Signature :=
  if 88 < text.utf8ByteSize then .error .wrongSize
  else match Base58.decode? text with
    | none => .error .notBase58
    | some bytes =>
      match Octets.ofBytes? 64 bytes with
      | some signature => .ok signature
      | none => .error .wrongSize

/-- Hands in a transaction without a trial run. The node has to name it by its own signature. -/
def send (commitment : Commitment) (transaction : Transaction) : Question Signature :=
  decoding "sendTransaction"
    [wire transaction, .object [("encoding", .text "base64"), ("maxRetries", .null),
      ("minContextSlot", .null), ("preflightCommitment", .text commitment.name),
      ("skipPreflight", .bool true)]]
    Json.asText
    fun text => do
      let received ← (readSignature text).mapError .noSignature
      let expected := transaction.signature?.getD (Octets.filled 64 0)
      if received = expected then return expected
      else throw (.otherSignature received expected)

/-- How the transaction of a signature ended. A status that is not sure enough is none. An answer
without any status ends the run. -/
def status (commitment : Commitment) (signature : Signature) : Question (Option Verdict) where
  request := ⟨"getSignatureStatuses", [.list [.text signature.text]]⟩
  interpret answer := do
    let statuses ← unlessFault do
      let result ← answer
      unlessMismatch (Json.asValue (Json.asList (Json.asOptional Json.asStatus)) result)
    match statuses with
    | [] => Plan.ofAbort (.error .noStatus)
    | status :: _ => return (status.filter (·.satisfies commitment)).map (·.verdict)

/-- Whether transactions bound to a block hash can still take effect. -/
def validity (commitment : Commitment) (blockhash : Blockhash) : Question Bool :=
  decoding "isBlockhashValid" [.text blockhash.text, .object [sure commitment]]
    (Json.asValue Json.asBool) .ok

/-- Runs a transaction without effect, bound to the latest block. -/
def simulate (commitment : Commitment) (transaction : Transaction) : Question Simulation :=
  decoding "simulateTransaction"
    [wire transaction, .object [("accounts", .null), sure commitment,
      ("encoding", .text "base64"), ("innerInstructions", .bool false),
      ("minContextSlot", .null), ("replaceRecentBlockhash", .bool true),
      ("sigVerify", .bool false)]]
    (Json.asValue Json.asSimulation) .ok

/-- The data of an account, none if there is no such account. -/
def account (commitment : Commitment) (address : Key) : Question (Option Bytes) where
  request := ⟨"getAccountInfo", [.text address.text, .object [sure commitment,
    ("dataSlice", .null), ("encoding", .text "base64+zstd"), ("minContextSlot", .null)]]⟩
  interpret answer := unlessFault do
    match ← answer.mapError (.ofAccount address) with
    | .null => throw (.noAccount address)
    | result =>
      let found ← unlessMismatch (Json.withContext (·.field? "value" Json.asAccount) result)
      return found.join

end Question

end LendingClient
