import LendingClient.Transaction.Basic

/-!
# Calls of the ledger

Everything that a run of the client asks of the world outside: of the ledger, of the clock, and of a
source of fresh keys. What an answer looks like depends on the call.
-/

namespace LendingClient

/-- How a transaction ended. -/
inductive Verdict where
  /-- It took effect. -/
  | landed
  /-- It was refused. -/
  | refused (why : Rejection)
deriving DecidableEq

/-- A question to the ledger that may be asked together with others: whose account, and whether its
data, if there is any, will do. -/
structure Query where
  address : Key
  accept : Option Bytes → Except Error Unit

/-- A call of the world outside. -/
inductive Call where
  /-- The data of an account. -/
  | account (address : Key)
  /-- The data of several accounts at once. The first answer that will not do ends them all. -/
  | accounts (queries : List Query)
  /-- The hash of the latest block. -/
  | blockhash
  /-- Hand in a transaction. -/
  | send (transaction : Transaction)
  /-- How the transaction of a signature ended. -/
  | status (signature : Signature)
  /-- Whether transactions bound to a block hash can still take effect. -/
  | validity (blockhash : Blockhash)
  /-- Run a transaction without effect. -/
  | simulate (transaction : Transaction)
  /-- Let some milliseconds pass. -/
  | sleep (millis : Nat)
  /-- The time of the day, as a timestamp. -/
  | clock
  /-- A pair of keys that nobody has. -/
  | freshKey

/-- What a call is answered with. -/
def Call.Answer : Call → Type
  | .account _ => Except Error (Option Bytes)
  | .accounts _ => Except Error (List (Option Bytes))
  | .blockhash => Except Error Blockhash
  | .send _ => Except Error Signature
  | .status _ => Except Error (Option Verdict)
  | .validity _ => Except Error Bool
  | .simulate _ => Except Error Simulation
  | .sleep _ => Unit
  | .clock => Int64
  | .freshKey => KeyPair

end LendingClient
