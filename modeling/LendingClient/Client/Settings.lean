import LendingClient.Operation.Market
import LendingClient.Submission.Confirm
import LendingClient.Text.Blank

/-!
# Settings of a client
-/

namespace LendingClient

/-- How sure the ledger has to be of what it says. -/
inductive Commitment where
  | processed
  | confirmed
  | finalized
deriving DecidableEq

/-- The name of a commitment. -/
def Commitment.name : Commitment → String
  | .processed => "processed"
  | .confirmed => "confirmed"
  | .finalized => "finalized"

/-- The commitment of a name. -/
def Commitment.ofName? : String → Option Commitment
  | "processed" => some .processed
  | "confirmed" => some .confirmed
  | "finalized" => some .finalized
  | _ => none

/-- A commitment is found by its name. -/
@[simp] theorem Commitment.ofName?_name (commitment : Commitment) :
    ofName? commitment.name = some commitment := by
  cases commitment <;> rfl

/-- Everything that a client has to be told. -/
structure Settings where
  /-- The address of the node. -/
  nodeUrl : String
  /-- Where the program is, and how its tokens are handled. -/
  deployment : Deployment
  commitment : Commitment := .confirmed
  polling : Polling := {}
  /-- How often a transaction that could not be handed in is tried again. It is the same transaction
  as long as its block hash is good; after that it is made anew. -/
  retries : Nat := 2
deriving DecidableEq

/-- Refuses settings that nothing can be done with. -/
def Settings.validate (settings : Settings) : Except SettingsFault Unit :=
  if (Text.trim settings.nodeUrl.toList).isEmpty then .error .noNode
  else if settings.deployment.program = Key.unset then .error .noProgram
  else if settings.polling.maxPolls = 0 ∨ settings.polling.expiryStrikes = 0 then .error .noPolls
  else .ok ()

end LendingClient
