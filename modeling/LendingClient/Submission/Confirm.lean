import LendingClient.Ledger.Task
import LendingClient.Submission.Outcome

/-!
# Confirming transactions

A batch is signed against the latest block and handed in. Whether it takes effect is then found out
by polling: each poll waits, asks for the status of the signature and, while there is none, whether
the block hash is still good. A verdict ends the polling. So do two polls (or as many as are set) that
find the block hash gone, unless one between them found it good; a poll that cannot find out counts
neither way. A refusal is looked into by running the transaction once more without effect, which
never changes the verdict. All of this can be cancelled at any instant.
-/

namespace LendingClient

/-- How polling is paced, and when it gives up. -/
structure Polling where
  /-- The milliseconds before each poll. -/
  interval : Nat := 2000
  /-- The most polls. -/
  maxPolls : Nat := 50
  /-- How many polls have to find the block hash gone. -/
  expiryStrikes : Nat := 2
deriving DecidableEq

/-- A signed transaction, and the block hash that it is bound to. -/
structure SignedBatch where
  kind : InstructionKind
  transaction : Transaction
  blockhash : Blockhash

/-- What one poll finds. -/
inductive PollResult where
  /-- No status yet, and the block hash is still good. -/
  | pending
  /-- No status yet, and no word on the block hash. -/
  | unread
  /-- No status yet, and the block hash is gone. -/
  | invalid
  /-- A verdict. -/
  | settled (outcome : Outcome)

/-- Signs a batch against the latest block. -/
def SignedBatch.ofBatch (batch : Batch) (signer : Signer) : Action SignedBatch := do
  let blockhash ← Action.blockhash
  let signed ← Plan.ofAbort (Transaction.ofBatch batch signer blockhash)
  let transaction ← Plan.ofExcept (signed.mapError .sign)
  return ⟨batch.kind, transaction, blockhash⟩

/-- A run that the caller may cancel; it has no value then. -/
abbrev Cancellable (α : Type) := OptionT Task α

/-- Makes a call that the caller may cancel. -/
def Cancellable.call (call : Call) : Cancellable call.Answer :=
  OptionT.mk (Task.callRacing call)

namespace SignedBatch

/-- Runs a refused transaction once more without effect. -/
def diagnose (signed : SignedBatch) (why : Rejection) : Cancellable FailureReport := do
  let (answer : Except Error Simulation) ← Cancellable.call (.simulate signed.transaction)
  match answer with
  | .ok simulation => return ⟨why, some simulation, none⟩
  | .error error => return ⟨why, none, some error.message⟩

/-- Asks whether the block hash is still good. -/
def pollValidity (signed : SignedBatch) : Cancellable PollResult := do
  let (answer : Except Error Bool) ← Cancellable.call (.validity signed.blockhash)
  match answer with
  | .ok true => return .pending
  | .ok false => return .invalid
  | .error _ => return .unread

/-- One poll. A status that could not be read counts as none. -/
def poll (signed : SignedBatch) (polling : Polling) (signature : Signature) (number : Nat) :
    Cancellable PollResult := do
  let _ ← Cancellable.call (.sleep polling.interval)
  let (answer : Except Error (Option Verdict)) ← Cancellable.call (.status signature)
  match answer with
  | .ok (some .landed) => return .settled (.confirmed signature number)
  | .ok (some (.refused why)) =>
    let report ← signed.diagnose why
    return .settled (.failed signature report)
  | .ok none | .error _ => signed.pollValidity

/-- Polls as often as is left; `number` polls were made before, and `strikes` of them found the block
hash gone since it was last found good. -/
def pollOn (signed : SignedBatch) (polling : Polling) (signature : Signature) :
    (left number strikes : Nat) → Task Outcome
  | 0, _, _ => return .expired signature .pollBudgetExhausted
  | left + 1, number, strikes => do
    match ← (signed.poll polling signature (number + 1)).run with
    | none => return .expired signature .cancelled
    | some (.settled outcome) => return outcome
    | some .pending => signed.pollOn polling signature left (number + 1) 0
    | some .unread => signed.pollOn polling signature left (number + 1) strikes
    | some .invalid =>
      if polling.expiryStrikes ≤ strikes + 1 then
        return .expired signature .blockhashExpired
      else signed.pollOn polling signature left (number + 1) (strikes + 1)

/-- Polls until it is known what became of the transaction of a signature. -/
def confirm (signed : SignedBatch) (polling : Polling) (signature : Signature) : Task Outcome :=
  signed.pollOn polling signature polling.maxPolls 0 0

/-- Hands a signed batch in. -/
def broadcast (signed : SignedBatch) : Action Signature :=
  Action.send signed.transaction

end SignedBatch

/-- Signs a batch, hands it in and polls for it. Once it is handed in there are no more errors. -/
def Batch.submit (batch : Batch) (polling : Polling) (signer : Signer) : Action Outcome := do
  let signed ← SignedBatch.ofBatch batch signer
  let signature ← signed.broadcast
  ExceptT.lift (signed.confirm polling signature)

end LendingClient
