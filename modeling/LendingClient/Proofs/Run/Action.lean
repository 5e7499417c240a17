import LendingClient.Proofs.Run.Basic

/-!
# Runs of actions

An action is a task that may end in an error, and one after another stops at the first error. What
was worked out without a call makes none.
-/

namespace LendingClient.Action

variable {α β : Type} {allowed : Call → Prop}

end LendingClient.Action
