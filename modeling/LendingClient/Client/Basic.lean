import LendingClient.Client.Settings
import LendingClient.Operation.Build

/-!
# The client

Carries an operation out: builds it, signs it, hands it in and waits for the verdict. If the ledger
cannot be reached the client tries again. A transaction that was signed already is never given up
while its block hash may still be good, because the ledger may have received it: the very same one
is handed in again, which takes effect at most once. Only when the hash is known to be gone is the
operation built anew.
-/

namespace LendingClient

/-- What an operation came to. -/
structure Receipt where
  signature : Signature
  kind : InstructionKind
  /-- The days whose totals the transaction touched. -/
  days : List String
  /-- The user's loan as it was found afterwards, for operations that change it. -/
  loan : Option UserLoan
  /-- The mint that was made. -/
  createdMint : Option Key

/-- A client of the program. -/
structure Client where
  deployment : Deployment
  polling : Polling := {}
  retries : Nat := 2

/-- A batch and the transaction that was signed for it. -/
structure Held where
  batch : Batch
  signed : SignedBatch

/-- How one attempt at handing an operation in ended. -/
inductive Attempt where
  /-- The transaction was taken. -/
  | sent (held : Held) (signature : Signature)
  /-- There was an error; a transaction that was signed already is kept. -/
  | failed (error : Error) (held : Option Held)

/-- The client that settings ask for, whatever they say. -/
def Client.ofSettings (settings : Settings) : Client where
  deployment := settings.deployment
  polling := settings.polling
  retries := settings.retries

/-- The client that settings ask for, unless nothing can be done with them. -/
def Client.ofChecked (settings : Settings) : Except SettingsFault Client := do
  settings.validate
  return ofSettings settings

namespace Client

/-- The batch of an operation at this instant. -/
def prepare (client : Client) (operation : Operation) (owner : Key) : Action Batch := do
  let now ← Action.clock
  client.deployment.build operation owner now

/-- Builds and signs an operation. -/
def hold (client : Client) (operation : Operation) (owner : Key) (signer : Signer) :
    Action Held := do
  let batch ← client.prepare operation owner
  let signed ← SignedBatch.ofBatch batch signer
  return ⟨batch, signed⟩

/-- Hands a transaction in. -/
def sendHeld (held : Held) : Task Attempt := do
  match ← held.signed.broadcast.run with
  | .ok signature => return .sent held signature
  | .error error => return .failed error (some held)

/-- Builds, signs and hands in. -/
def sendAnew (client : Client) (operation : Operation) (owner : Key) (signer : Signer) :
    Task Attempt := do
  match ← (client.hold operation owner signer).run with
  | .ok held => sendHeld held
  | .error error => return .failed error none

/-- One attempt. A transaction that is held is handed in again as it is, unless its block hash is
known to be gone. -/
def attempt (client : Client) (operation : Operation) (owner : Key) (signer : Signer) :
    Option Held → Task Attempt
  | none => client.sendAnew operation owner signer
  | some held => do
    match ← (Action.validity held.signed.blockhash).run with
    | .ok true => sendHeld held
    | .ok false => client.sendAnew operation owner signer
    | .error error => return .failed error (some held)

/-- Attempts it until the transaction is taken. Only an error of the ledger leads to another attempt,
and at most `retries` times. -/
def send (client : Client) (operation : Operation) (owner : Key) (signer : Signer) :
    (retries : Nat) → Option Held → Task (Except Error (Held × Signature))
  | retries, held => do
    match ← client.attempt operation owner signer held with
    | .sent held signature => return .ok (held, signature)
    | .failed (.ledger reason) held =>
      match retries with
      | 0 => return .error (.ledger reason)
      | retries + 1 => client.send operation owner signer retries held
    | .failed error _ => return .error error

/-- The user's loan after an operation. That it cannot be read does not undo the operation. -/
def loanAfter (client : Client) (operation : Operation) (owner : Key) : Task (Option UserLoan) := do
  if operation.changesLoan then
    match ← (Read.userLoan client.deployment.program owner).perform.run with
    | .ok loan => return loan
    | .error _ => return none
  else return none

/-- Carries an operation out. -/
def execute (client : Client) (operation : Operation) (signer : Signer) : Action Receipt := do
  let owner ← Plan.ofExcept (signer.key.mapError fun reason => .sign (.signer reason))
  let (held, sent) ← ExceptT.mk (client.send operation owner signer client.retries none)
  let outcome ← ExceptT.lift (held.signed.confirm client.polling sent)
  let signature ← Plan.ofExcept outcome.result
  let loan ← ExceptT.lift (client.loanAfter operation owner)
  return {
    signature := signature
    kind := held.batch.kind
    days := held.batch.days
    loan := loan
    createdMint := held.batch.cosigners.head?.map (·.key) }

end Client

end LendingClient
