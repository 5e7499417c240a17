import LendingClient.Ledger.Call

/-!
# Outcomes

What became of a transaction that was handed in: it took effect, it was refused, or no verdict came
in time.
-/

namespace LendingClient

/-- What became of a transaction. -/
inductive Outcome where
  /-- It took effect, as the given poll found out. -/
  | confirmed (signature : Signature) (polls : Nat)
  /-- It was refused. -/
  | failed (signature : Signature) (report : FailureReport)
  /-- No verdict came in time. -/
  | expired (signature : Signature) (reason : ExpiryReason)
deriving DecidableEq

namespace Outcome

/-- The signature that was polled for. -/
def signature : Outcome → Signature
  | .confirmed signature _ | .failed signature _ | .expired signature _ => signature

/-- The signature of a transaction that took effect, or the error that it ended in. -/
def result : Outcome → Except Error Signature
  | .confirmed signature _ => .ok signature
  | .failed signature report => .error (.failed signature report)
  | .expired _ reason => .error (.expired reason)

end Outcome

end LendingClient
